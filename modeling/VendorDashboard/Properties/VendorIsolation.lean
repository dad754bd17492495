import VendorDashboard.VendorIntegration.OrderUpdates

/-!
# Order updates stay inside the vendor

A first write is safe because everything it rests on is checked under the lock of the order, and
the transfer that would reassign the allocation needs that lock.  The replay of a key answers before
any of these checks, and a status update is not held back by a customer cancellation.

`UpdateCall.Writes` says what a step writes and `UpdateCall.Sound` what a call knows while it has
the lock.
-/

namespace VendorDashboard.VendorIntegration

open Finance (Id Instant)
open Interleaving Transaction Run

/-! ## What a call must respect -/

/-- A step of a call from `s` to `s'` that leads to `c'`. -/
structure UpdateCall.Respects (s s' : IntegrationStore) (c c' : UpdateCall) : Prop where
  reply : ∀ r, c'.position = .ended (.replied r) → ∃ allocation,
    s'.allocation r.allocationId = some allocation ∧
      allocation.assignedVendorId = c.input.context.vendorIdentifier
  replay : s.hasEvent c.input = true → s'.allocation = s.allocation ∧
    s'.shipmentEvents = s.shipmentEvents ∧ s'.statusEvents = s.statusEvents
  writes : ∀ id, s'.allocation id ≠ s.allocation id → ∃ allocation,
    s.allocation id = some allocation ∧
      allocation.assignedVendorId = c.input.context.vendorIdentifier ∧
        s.cancelledAt allocation.shopifyOrderId = none ∧ s.pendingHold id = false

/-- Each key has at most one event. -/
structure IntegrationStore.UniqueEvents (s : IntegrationStore) : Prop where
  shipment : (s.shipmentEvents.map (·.key)).Nodup
  status : (s.statusEvents.map (·.key)).Nodup

/-- A replay that would answer is of an allocation that the vendor still has, and a status update
that passes its checks is of one that no cancellation holds. -/
def UpdateCall.Admitted (s : IntegrationStore) (c : UpdateCall) : Prop :=
  match c.position with
  | .findEvent => s.hasEvent c.input = true → ∀ allocation ∈ s.allocation c.input.allocationId,
      c.input.update.replayable allocation c.input.context = true →
        allocation.assignedVendorId = c.input.context.vendorIdentifier
  | .findAllocation order =>
      match c.input.update with
      | .shipment .. => True
      | .status .. => ∀ allocation ∈ s.findAssigned c.input,
          c.input.update.permitted allocation (s.cancelledAt order) c.input.context = true →
            s.pendingHold c.input.allocationId = false
  | _ => True

instance (s : IntegrationStore) (c : UpdateCall) : Decidable (c.Admitted s) := by
  unfold UpdateCall.Admitted
  split
  · infer_instance
  · split <;> infer_instance
  · infer_instance

/-- No order is cancelled outside of its lock. -/
def UpdatesAdmit (w : World IntegrationStore UpdateCall) :
    Move OrderUpdateInput UpdateAnswer IntegrationMove → Prop
  | .run i _ => ∀ c ∈ w.process i, c.Admitted w.shared
  | .outside (.cancel order _) => w.shared.lock order = none
  | _ => True

instance (w : World IntegrationStore UpdateCall) : DecidablePred (UpdatesAdmit w) := fun m => by
  unfold UpdatesAdmit
  split <;> infer_instance

/-! ## The invariant -/

/-- The order whose lock a call has. -/
def UpdatePosition.order? : UpdatePosition → Option Id
  | .findAllocation order | .checkHold order | .write order => some order
  | _ => none

/-- The checks are done, but for the hold. -/
def UpdatePosition.Checked : UpdatePosition → Prop
  | .checkHold _ | .write _ => True
  | _ => False

structure UpdateCall.Sound (i : ℕ) (s : IntegrationStore) (c : UpdateCall) : Prop where
  locked : ∀ order, c.position.order? = some order → s.lock order = some i ∧
    ∃ allocation, s.allocation c.input.allocationId = some allocation ∧
      allocation.shopifyOrderId = order
  checked : c.position.Checked → ∀ allocation, s.allocation c.input.allocationId = some allocation →
    allocation.assignedVendorId = c.input.context.vendorIdentifier ∧
      s.cancelledAt allocation.shopifyOrderId = none
  free : ∀ order, c.position = .write order → s.pendingHold c.input.allocationId = false

/-! ## What a step writes -/

inductive UpdateCall.Writes (i : ℕ) (s : IntegrationStore) (c : UpdateCall) :
    IntegrationStore → Prop
  | nothing : Writes i s c s
  | acquire {allocation : IntegrationAllocation}
      (hallocation : s.allocation c.input.allocationId = some allocation)
      (hfree : s.lock allocation.shopifyOrderId = none) :
      Writes i s c (s.acquire allocation.shopifyOrderId i)
  | release {order : Id} (hposition : c.position.order? = some order) :
      Writes i s c (s.release order)
  | commit {order : Id} {now : Instant} {s' : IntegrationStore} {updated : IntegrationAllocation}
      (hposition : c.position = .write order)
      (hcommit : s.commitUpdate c.input now = some (s', updated)) : Writes i s c (s'.release order)

/-- What a committed update did. -/
lemma IntegrationStore.commitUpdate_eq_some {s s' : IntegrationStore} {input : OrderUpdateInput}
    {now : Instant} {updated : IntegrationAllocation}
    (h : s.commitUpdate input now = some (s', updated)) :
    s.hasEvent input = false ∧ ∃ allocation, s.allocation input.allocationId = some allocation ∧
      updated = input.apply now allocation ∧
        s' = (s.setAllocation input.allocationId updated).createEvent input updated := by
  unfold commitUpdate at h
  split at h
  · cases h
  · rename_i hevent
    obtain ⟨allocation, hallocation, heq⟩ := Option.map_eq_some_iff.mp h
    simp only [Prod.mk.injEq] at heq
    obtain ⟨rfl, rfl⟩ := heq
    exact ⟨Bool.not_eq_true _ ▸ hevent, allocation, hallocation, rfl, rfl⟩

namespace UpdateCall

variable {i j : ℕ} {s s' : IntegrationStore} {c c' e : UpdateCall}

lemma writes_commit {order : Id} {now : Instant} {answered : Bool}
    (hposition : c.position = .write order) :
    Writes i s c (c.commit s order now answered).1 := by
  unfold commit
  cases hcommit : s.commitUpdate c.input now with
  | none => exact .release (by rw [hposition]; rfl)
  | some written => exact .commit hposition hcommit

lemma writes_findAllocation {order : Id} (hposition : c.position = .findAllocation order) :
    Writes i s c (c.findAllocation s order).1 := by
  have hrelease : Writes i s c (s.release order) := .release (by rw [hposition]; rfl)
  unfold findAllocation
  split
  · exact hrelease
  · split
    · split <;> exact .nothing
    · exact hrelease

/-- **What a step of a call writes.** -/
theorem run_writes {answer : UpdateAnswer} (h : c.run i answer s = some (s', c')) :
    Writes i s c s' := by
  unfold run at h
  split at h
  all_goals try simp only [Option.some.injEq, Prod.mk.injEq, reduceCtorEq] at h
  case h_3 fact hposition =>
    unfold acquireLock at h
    split at h
    · simp only [Option.some.injEq, Prod.mk.injEq] at h
      rw [← h.1]
      exact .nothing
    · rename_i allocation hallocation
      split at h
      · rename_i hfree
        split at h
        all_goals
          simp only [Option.some.injEq, Prod.mk.injEq] at h
          rw [← h.1]
        · exact .nothing
        · exact .acquire hallocation hfree
      · cases h
  case h_4 order now hposition =>
    have hwrites : Writes i s c (c.findAllocation s order).1 := writes_findAllocation hposition
    rw [h] at hwrites
    exact hwrites
  case h_5 order now hposition =>
    split at h
    all_goals
      simp only [Prod.mk.injEq] at h
      rw [← h.1]
    · exact .release (by rw [hposition]; rfl)
    · exact .nothing
  case h_6 order now hposition =>
    have hwrites : Writes i s c (c.commit s order now true).1 := writes_commit hposition
    rw [h] at hwrites
    exact hwrites
  case h_7 order now hposition =>
    have hwrites : Writes i s c (c.commit s order now false).1 := writes_commit hposition
    rw [h] at hwrites
    exact hwrites
  case h_8 order hposition | h_9 order hposition | h_10 order hposition =>
    rw [← h.1]
    exact .release (by rw [hposition]; rfl)
  all_goals
    rw [← h.1]
    exact .nothing

end UpdateCall

/-! ## What the lock protects -/

/-- Nothing that call `j` rests on while it has a lock is changed. -/
structure IntegrationStore.Protects (j : ℕ) (s s' : IntegrationStore) : Prop where
  lock : ∀ order, s.lock order = some j → s'.lock order = some j
  allocation : ∀ id allocation, s.allocation id = some allocation →
    s.lock allocation.shopifyOrderId = some j → ∃ allocation',
      s'.allocation id = some allocation' ∧
        allocation'.shopifyOrderId = allocation.shopifyOrderId ∧
        allocation'.assignedVendorId = allocation.assignedVendorId
  cancelledAt : ∀ order, s.lock order = some j → s'.cancelledAt order = s.cancelledAt order
  pendingHold : ∀ id allocation, s.allocation id = some allocation →
    s.lock allocation.shopifyOrderId = some j → s'.pendingHold id = s.pendingHold id

namespace IntegrationStore

variable {i j : ℕ} {s s' : IntegrationStore} {c e : UpdateCall}

lemma Protects.sound (h : s.Protects j s') (he : e.Sound j s) : e.Sound j s' where
  locked := by
    intro order hposition
    obtain ⟨hlock, allocation, hallocation, horder⟩ := he.locked order hposition
    obtain ⟨allocation', hallocation', hsame, -⟩ :=
      h.allocation _ allocation hallocation (horder ▸ hlock)
    exact ⟨h.lock order hlock, allocation', hallocation', hsame.trans horder⟩
  checked := by
    intro hchecked row hrow
    obtain ⟨order, hposition⟩ : ∃ order, e.position.order? = some order := by
      cases hposition : e.position <;> rw [hposition] at hchecked
      case checkHold order => exact ⟨order, rfl⟩
      case write order => exact ⟨order, rfl⟩
      all_goals exact hchecked.elim
    obtain ⟨hlock, allocation, hallocation, rfl⟩ := he.locked order hposition
    obtain ⟨hvendor, hcancelled⟩ := he.checked hchecked allocation hallocation
    obtain ⟨allocation', hallocation', hsame, hsameVendor⟩ :=
      h.allocation _ allocation hallocation hlock
    rw [hallocation'] at hrow
    obtain rfl := Option.some.inj hrow
    rw [hsameVendor, hsame, h.cancelledAt _ hlock]
    exact ⟨hvendor, hcancelled⟩
  free := by
    intro order hposition
    have horder : e.position.order? = some order := by
      rw [hposition]
      rfl
    obtain ⟨hlock, allocation, hallocation, rfl⟩ := he.locked order horder
    rw [h.pendingHold _ allocation hallocation hlock]
    exact he.free _ hposition

lemma Protects.refl (j : ℕ) (s : IntegrationStore) : s.Protects j s :=
  ⟨fun _ h => h, fun _ allocation h _ => ⟨allocation, h, rfl, rfl⟩, fun _ _ => rfl,
    fun _ _ _ _ => rfl⟩

/-- Giving up another lock. -/
lemma Protects.release {order : Id} (h : s.Protects j s') (hlock : s.lock order ≠ some j) :
    s.Protects j (s'.release order) where
  lock := by
    intro o ho
    have hne : o ≠ order := by
      rintro rfl
      exact hlock ho
    show Function.update s'.lock order none o = some j
    rw [Function.update_of_ne hne]
    exact h.lock o ho
  allocation := h.allocation
  cancelledAt := h.cancelledAt
  pendingHold := h.pendingHold

/-- **The lock of one call protects it from the steps of the others.** -/
lemma Protects.ofWrites (hij : j ≠ i) (hc : c.Sound i s) (h : c.Writes i s s') :
    s.Protects j s' := by
  have hother : ∀ {order : Id}, s.lock order = some i → s.lock order ≠ some j := by
    intro order hi hj
    rw [hi] at hj
    exact hij (Option.some.inj hj).symm
  cases h with
  | nothing => exact .refl j s
  | @acquire allocation hallocation hfree =>
      refine ⟨fun order horder => ?_, fun _ allocation h _ => ⟨allocation, h, rfl, rfl⟩,
        fun _ _ => rfl, fun _ _ _ _ => rfl⟩
      have hne : order ≠ allocation.shopifyOrderId := by
        rintro rfl
        rw [hfree] at horder
        cases horder
      show Function.update s.lock allocation.shopifyOrderId (some i) order = some j
      rw [Function.update_of_ne hne]
      exact horder
  | @release order hposition => exact (Protects.refl j s).release (hother (hc.locked order hposition).1)
  | @commit order now t updated hposition hcommit =>
      have horder : c.position.order? = some order := by
        rw [hposition]
        rfl
      obtain ⟨hlock, row, hrow, hroworder⟩ := hc.locked order horder
      obtain ⟨-, row', hrow', rfl, rfl⟩ := commitUpdate_eq_some hcommit
      rw [hrow] at hrow'
      obtain rfl := Option.some.inj hrow'
      refine Protects.release ?_ (hother hlock)
      refine ⟨fun o ho => ?_, fun id allocation hallocation hheld => ?_, fun o _ => ?_,
        fun id _ _ _ => ?_⟩
      · rw [createEvent_lock]
        exact ho
      · have hne : id ≠ c.input.allocationId := by
          rintro rfl
          rw [hrow] at hallocation
          obtain rfl := Option.some.inj hallocation
          rw [hroworder] at hheld
          exact hother hlock hheld
        refine ⟨allocation, ?_, rfl, rfl⟩
        rw [createEvent_allocation]
        show Function.update s.allocation c.input.allocationId _ id = some allocation
        rw [Function.update_of_ne hne]
        exact hallocation
      · rw [createEvent_cancelledAt]
        rfl
      · rw [createEvent_pendingHold]
        rfl

/-- **The lock protects a call from the surroundings**, but for a cancellation that ignores it. -/
lemma Protects.ofOutside {m : IntegrationMove}
    (hcancel : ∀ order time, m = .cancel order time → s.lock order = none)
    (h : s.outside m = some s') : s.Protects j s' := by
  have hfree : ∀ {order : Id}, s.lock order = none → s.lock order ≠ some j := by
    intro order hnone hj
    rw [hnone] at hj
    cases hj
  -- another row is written, with the same order and vendor, or under a free lock
  have hset : ∀ id row, (∀ old, s.allocation id = some old → s.lock old.shopifyOrderId = some j →
      row.shopifyOrderId = old.shopifyOrderId ∧ row.assignedVendorId = old.assignedVendorId) →
      s.Protects j (s.setAllocation id row) := by
    intro id row hrow
    refine ⟨fun _ h => h, fun k allocation hallocation hheld => ?_, fun _ _ => rfl,
      fun _ _ _ _ => rfl⟩
    by_cases hk : k = id
    · subst hk
      refine ⟨row, ?_, hrow allocation hallocation hheld⟩
      show Function.update s.allocation k (some row) k = some row
      rw [Function.update_self]
    · refine ⟨allocation, ?_, rfl, rfl⟩
      show Function.update s.allocation id (some row) k = some allocation
      rw [Function.update_of_ne hk]
      exact hallocation
  cases m with
  | create id allocation =>
      simp only [outside] at h
      split at h
      · rename_i hnone
        obtain rfl := Option.some.inj h
        refine hset id allocation fun old hold _ => ?_
        rw [hnone] at hold
        cases hold
      · cases h
  | edit id allocation =>
      simp only [outside] at h
      split at h
      · rename_i hsame
        obtain ⟨old, hold, horder, hvendor⟩ := hsame
        obtain rfl := Option.some.inj h
        refine hset id allocation fun old' hold' _ => ?_
        rw [Option.mem_def.mp hold] at hold'
        obtain rfl := Option.some.inj hold'
        exact ⟨horder.symm, hvendor.symm⟩
      · cases h
  | transfer id toVendorId =>
      simp only [outside] at h
      split at h
      · cases h
      · rename_i allocation hallocation
        split at h
        · rename_i hguard
          obtain rfl := Option.some.inj h
          refine hset id _ fun old hold hheld => ?_
          rw [hallocation] at hold
          obtain rfl := Option.some.inj hold
          exact absurd hheld (hfree hguard.1)
        · cases h
  | hold id pending =>
      simp only [outside] at h
      split at h
      · rename_i hunlocked
        obtain rfl := Option.some.inj h
        refine ⟨fun _ h => h, fun _ allocation h _ => ⟨allocation, h, rfl, rfl⟩, fun _ _ => rfl,
          fun k allocation hallocation hheld => ?_⟩
        have hne : k ≠ id := by
          rintro rfl
          exact hfree (hunlocked allocation hallocation) hheld
        show Function.update s.pendingHold id pending k = s.pendingHold k
        rw [Function.update_of_ne hne]
      · cases h
  | cancel order time =>
      simp only [outside, Option.some.injEq] at h
      rw [← h]
      refine ⟨fun _ h => h, fun _ allocation h _ => ⟨allocation, h, rfl, rfl⟩, fun o ho => ?_,
        fun _ _ _ _ => rfl⟩
      have hne : o ≠ order := by
        rintro rfl
        exact hfree (hcancel o time rfl) ho
      show Function.update s.cancelledAt order (some time) o = s.cancelledAt o
      rw [Function.update_of_ne hne]

lemma findAssigned_eq_some {input : OrderUpdateInput} {allocation : IntegrationAllocation}
    (h : s.findAssigned input = some allocation) :
    s.allocation input.allocationId = some allocation ∧
      allocation.assignedVendorId = input.context.vendorIdentifier := by
  obtain ⟨hallocation, hvendor⟩ := Option.filter_eq_some_iff.mp h
  exact ⟨hallocation, of_decide_eq_true hvendor⟩

end IntegrationStore

/-! ## The call that takes the step -/

namespace UpdateCall

variable {i : ℕ} {s s' : IntegrationStore} {c c' : UpdateCall}

/-- A call without a lock rests on nothing. -/
lemma sound_of_unlocked (horder : c.position.order? = none) : c.Sound i s where
  locked := by
    intro order h
    rw [horder] at h
    cases h
  checked := by
    intro hchecked
    cases hposition : c.position <;> rw [hposition] at horder hchecked
    case checkHold order => cases horder
    case write order => cases horder
    all_goals exact hchecked.elim
  free := by
    intro order hposition
    rw [hposition] at horder
    cases horder

lemma sound_finish (outcome : UpdateOutcome) : (c.finish outcome).Sound i s :=
  sound_of_unlocked rfl

lemma sound_findEvent : (c.findEvent s).Sound i s := by
  unfold findEvent
  split
  · split
    · exact sound_finish .threw
    · split
      · exact sound_finish _
      · exact sound_finish .threw
  · exact sound_of_unlocked rfl

lemma permitted_notCancelled {update : OrderUpdate} {allocation : IntegrationAllocation}
    {cancelledAt : Option Instant} {context : VendorIntegrationContext}
    (h : update.permitted allocation cancelledAt context = true) : cancelledAt = none := by
  cases update <;>
    simp only [OrderUpdate.permitted, assertNotCancelled, Bool.and_eq_true,
      decide_eq_true_eq] at h
  · exact h.1.1.1
  · exact h.1

lemma sound_findAllocation {order : Id} (hc : c.Sound i s)
    (hposition : c.position = .findAllocation order) (hadmitted : c.Admitted s) :
    (c.findAllocation s order).2.Sound i (c.findAllocation s order).1 := by
  obtain ⟨hlock, row, hrow, hroworder⟩ := hc.locked order (by rw [hposition]; rfl)
  unfold findAllocation
  split
  · exact sound_finish .notFound
  · rename_i allocation hfound
    obtain ⟨hallocation, hvendor⟩ := IntegrationStore.findAssigned_eq_some hfound
    rw [hrow] at hallocation
    obtain rfl := Option.some.inj hallocation
    split
    · rename_i hpermitted
      have hcancelled := permitted_notCancelled hpermitted
      have hchecked : ∀ allocation, s.allocation c.input.allocationId = some allocation →
          allocation.assignedVendorId = c.input.context.vendorIdentifier ∧
            s.cancelledAt allocation.shopifyOrderId = none := by
        intro allocation hallocation
        rw [hrow] at hallocation
        obtain rfl := Option.some.inj hallocation
        rw [hroworder]
        exact ⟨hvendor, hcancelled⟩
      have hlocked : ∀ o, some order = some o → s.lock o = some i ∧
          ∃ allocation, s.allocation c.input.allocationId = some allocation ∧
            allocation.shopifyOrderId = o := by
        intro o ho
        obtain rfl := Option.some.inj ho
        exact ⟨hlock, row, hrow, hroworder⟩
      split
      · exact ⟨hlocked, fun _ => hchecked, fun o h => by cases h⟩
      · rename_i status message hupdate
        refine ⟨hlocked, fun _ => hchecked, fun o _ => ?_⟩
        unfold Admitted at hadmitted
        simp only [hposition, hupdate] at hadmitted
        rw [hupdate] at hpermitted
        exact hadmitted row hfound hpermitted
    · exact sound_finish .threw

lemma commit_ended {order : Id} {now : Instant} {answered : Bool} :
    (c.commit s order now answered).2.position.order? = none := by
  unfold commit
  split <;> rfl

lemma acquireLock_sound {fact : Bool} (h : c.acquireLock i s fact = some (s', c')) :
    c'.Sound i s' := by
  unfold acquireLock at h
  split at h
  · simp only [Option.some.injEq, Prod.mk.injEq] at h
    rw [← h.2]
    exact sound_finish .threw
  · rename_i allocation hallocation
    split at h
    · split at h
      · simp only [Option.some.injEq, Prod.mk.injEq] at h
        rw [← h.2]
        exact sound_finish .threw
      · simp only [Option.some.injEq, Prod.mk.injEq] at h
        obtain ⟨rfl, rfl⟩ := h
        refine ⟨fun order horder => ?_, fun h => h.elim, fun order h => by cases h⟩
        obtain rfl := Option.some.inj horder
        refine ⟨?_, allocation, hallocation, rfl⟩
        show Function.update s.lock allocation.shopifyOrderId (some i) _ = some i
        rw [Function.update_self]
    · cases h

/-- **The call that takes a step keeps what it rests on.** -/
theorem run_sound {answer : UpdateAnswer} (hc : c.Sound i s) (hadmitted : c.Admitted s)
    (h : c.run i answer s = some (s', c')) : c'.Sound i s' := by
  unfold run at h
  split at h
  all_goals try simp only [Option.some.injEq, Prod.mk.injEq, reduceCtorEq] at h
  case h_1 now hposition =>
    obtain ⟨rfl, rfl⟩ := h
    exact sound_findEvent
  case h_2 now hposition =>
    rw [← h.2]
    split <;> exact sound_of_unlocked rfl
  case h_3 fact hposition => exact acquireLock_sound h
  case h_4 order now hposition =>
    have hsound := sound_findAllocation hc hposition hadmitted
    rw [h] at hsound
    exact hsound
  case h_5 order now hposition =>
    obtain ⟨hlock, hallocation⟩ := hc.locked order (by rw [hposition]; rfl)
    split at h
    · simp only [Prod.mk.injEq] at h
      rw [← h.2]
      exact sound_finish .threw
    · rename_i hfree
      simp only [Prod.mk.injEq] at h
      obtain ⟨rfl, rfl⟩ := h
      refine ⟨fun o ho => ?_, fun _ => hc.checked (by rw [hposition]; trivial), fun _ _ => ?_⟩
      · obtain rfl := Option.some.inj ho
        exact ⟨hlock, hallocation⟩
      · exact Bool.not_eq_true _ ▸ hfree
  case h_6 order now hposition =>
    refine sound_of_unlocked ?_
    have hended : (c.commit s order now true).2.position.order? = none := commit_ended
    rw [h] at hended
    exact hended
  case h_7 order now hposition =>
    refine sound_of_unlocked ?_
    have hended : (c.commit s order now false).2.position.order? = none := commit_ended
    rw [h] at hended
    exact hended
  all_goals
    rw [← h.2]
    exact sound_finish .threw

/-! ## What a step respects -/

/-- The reply to a replay is of an allocation that the vendor has. -/
lemma reply_findEvent {r : UpdateReply} (hposition : c.position = .findEvent)
    (hadmitted : c.Admitted s) (h : (c.findEvent s).position = .ended (.replied r)) :
    ∃ allocation, s.allocation r.allocationId = some allocation ∧
      allocation.assignedVendorId = c.input.context.vendorIdentifier := by
  unfold findEvent at h
  split at h
  · rename_i hevent
    split at h
    · cases h
    · rename_i allocation hallocation
      split at h
      · rename_i hreplayable
        obtain rfl : c.input.update.reply true c.input.allocationId allocation = r := by
          injection h with h
          injection h
        refine ⟨allocation, ?_, ?_⟩
        · rw [OrderUpdate.reply_allocationId]
          exact hallocation
        · unfold Admitted at hadmitted
          simp only [hposition] at hadmitted
          exact hadmitted hevent allocation hallocation hreplayable
      · cases h
  · cases h

/-- The reply to a first write is of an allocation that the vendor has. -/
lemma reply_commit {order : Id} {now : Instant} {answered : Bool} {r : UpdateReply}
    (hc : c.Sound i s) (hposition : c.position = .write order)
    (h : (c.commit s order now answered).2.position = .ended (.replied r)) :
    ∃ allocation, (c.commit s order now answered).1.allocation r.allocationId = some allocation ∧
      allocation.assignedVendorId = c.input.context.vendorIdentifier := by
  have hchecked := hc.checked (by rw [hposition]; trivial)
  unfold commit at h ⊢
  cases hcommit : s.commitUpdate c.input now with
  | none =>
      rw [hcommit] at h
      cases h
  | some written =>
      obtain ⟨t, updated⟩ := written
      obtain ⟨-, row, hrow, rfl, rfl⟩ := IntegrationStore.commitUpdate_eq_some hcommit
      rw [hcommit] at h
      cases answered with
      | false => cases h
      | true =>
          obtain rfl : c.input.update.reply false c.input.allocationId
              (c.input.apply now row) = r := by
            injection h with h
            injection h
          refine ⟨c.input.apply now row, ?_, ?_⟩
          · rw [OrderUpdate.reply_allocationId]
            show ((s.setAllocation _ _).createEvent _ _).allocation _ = _
            rw [IntegrationStore.createEvent_allocation]
            show Function.update s.allocation c.input.allocationId _ _ = _
            rw [Function.update_self]
          · rw [OrderUpdateInput.apply_assignedVendorId]
            exact (hchecked row hrow).1

lemma reply_run {answer : UpdateAnswer} {r : UpdateReply} (hc : c.Sound i s)
    (hadmitted : c.Admitted s) (h : c.run i answer s = some (s', c'))
    (hreply : c'.position = .ended (.replied r)) :
    ∃ allocation, s'.allocation r.allocationId = some allocation ∧
      allocation.assignedVendorId = c.input.context.vendorIdentifier := by
  unfold run at h
  split at h
  all_goals try simp only [Option.some.injEq, Prod.mk.injEq, reduceCtorEq] at h
  case h_1 now hposition =>
    obtain ⟨rfl, rfl⟩ := h
    exact reply_findEvent hposition hadmitted hreply
  case h_2 now hposition =>
    rw [← h.2] at hreply
    split at hreply <;> cases hreply
  case h_3 fact hposition =>
    unfold acquireLock at h
    repeat' split at h
    all_goals simp only [Option.some.injEq, Prod.mk.injEq, reduceCtorEq] at h
    all_goals
      rw [← h.2] at hreply
      cases hreply
  case h_4 order now hposition =>
    have hnot : (c.findAllocation s order).2.position ≠ .ended (.replied r) := by
      unfold findAllocation
      repeat' split
      all_goals exact fun h => (by cases h)
    rw [h] at hnot
    exact absurd hreply hnot
  case h_5 order now hposition =>
    split at h
    all_goals
      simp only [Prod.mk.injEq] at h
      rw [← h.2] at hreply
      cases hreply
  case h_6 order now hposition =>
    have hcommit := @reply_commit i s c order now true r hc hposition
    rw [h] at hcommit
    exact hcommit hreply
  case h_7 order now hposition =>
    have hcommit := @reply_commit i s c order now false r hc hposition
    rw [h] at hcommit
    exact hcommit hreply
  all_goals
    rw [← h.2] at hreply
    cases hreply

/-- What changes rows is a first write. -/
lemma Writes.rows (hc : c.Sound i s) (h : c.Writes i s s') :
    (s.hasEvent c.input = true → s'.allocation = s.allocation ∧
      s'.shipmentEvents = s.shipmentEvents ∧ s'.statusEvents = s.statusEvents) ∧
      ∀ id, s'.allocation id ≠ s.allocation id → ∃ allocation,
        s.allocation id = some allocation ∧
          allocation.assignedVendorId = c.input.context.vendorIdentifier ∧
            s.cancelledAt allocation.shopifyOrderId = none ∧ s.pendingHold id = false := by
  cases h with
  | nothing => exact ⟨fun _ => ⟨rfl, rfl, rfl⟩, fun id hne => absurd rfl hne⟩
  | acquire hallocation hfree => exact ⟨fun _ => ⟨rfl, rfl, rfl⟩, fun id hne => absurd rfl hne⟩
  | release hposition => exact ⟨fun _ => ⟨rfl, rfl, rfl⟩, fun id hne => absurd rfl hne⟩
  | @commit order now t updated hposition hcommit =>
      obtain ⟨hevent, row, hrow, rfl, rfl⟩ := IntegrationStore.commitUpdate_eq_some hcommit
      constructor
      · intro hexists
        rw [hevent] at hexists
        cases hexists
      · intro id hne
        have hid : id = c.input.allocationId := by
          by_contra hid
          refine hne ?_
          show ((s.setAllocation _ _).createEvent _ _).allocation id = _
          rw [IntegrationStore.createEvent_allocation]
          show Function.update s.allocation c.input.allocationId _ id = _
          rw [Function.update_of_ne hid]
        subst hid
        obtain ⟨hvendor, hcancelled⟩ := hc.checked (by rw [hposition]; trivial) row hrow
        exact ⟨row, hrow, hvendor, hcancelled, hc.free order hposition⟩

theorem run_respects {answer : UpdateAnswer} (hc : c.Sound i s) (hadmitted : c.Admitted s)
    (h : c.run i answer s = some (s', c')) : c.Respects s s' c' := by
  obtain ⟨hreplay, hwrites⟩ := (run_writes h).rows hc
  exact ⟨fun r hreply => reply_run hc hadmitted h hreply, hreplay, hwrites⟩

end UpdateCall

/-! ## Runs -/

namespace IntegrationStore

variable {i : ℕ} {s s' : IntegrationStore} {c : UpdateCall}

/-- A new key goes behind the others. -/
lemma nodup_append_key {keys : List EventKey} {key : EventKey} (h : keys.Nodup)
    (hnew : key ∉ keys) : (keys ++ [key]).Nodup := by
  rw [List.nodup_append]
  refine ⟨h, List.nodup_singleton key, fun a ha b hb => ?_⟩
  rw [List.mem_singleton.mp hb]
  rintro rfl
  exact hnew ha

lemma UniqueEvents.createEvent {input : OrderUpdateInput} {updated : IntegrationAllocation}
    (h : s.UniqueEvents) (hnew : s.hasEvent input = false) :
    (s.createEvent input updated).UniqueEvents := by
  cases hupdate : input.update with
  | shipment carrier trackingNumber trackingUrl shippedAt =>
      simp only [hasEvent, hupdate, List.any_eq_false] at hnew
      simp only [IntegrationStore.createEvent, hupdate]
      refine ⟨?_, h.status⟩
      rw [List.map_append]
      refine nodup_append_key h.shipment fun hmem => ?_
      obtain ⟨e, he, hkey⟩ := List.mem_map.mp hmem
      exact hnew e he (decide_eq_true hkey)
  | status status message =>
      simp only [hasEvent, hupdate, List.any_eq_false] at hnew
      simp only [IntegrationStore.createEvent, hupdate]
      refine ⟨h.shipment, ?_⟩
      rw [List.map_append]
      refine nodup_append_key h.status fun hmem => ?_
      obtain ⟨e, he, hkey⟩ := List.mem_map.mp hmem
      exact hnew e he (decide_eq_true hkey)

lemma UniqueEvents.ofWrites (h : s.UniqueEvents) (hw : c.Writes i s s') : s'.UniqueEvents := by
  cases hw with
  | nothing => exact h
  | acquire hallocation hfree => exact ⟨h.shipment, h.status⟩
  | release hposition => exact ⟨h.shipment, h.status⟩
  | @commit order now t updated hposition hcommit =>
      obtain ⟨hevent, row, hrow, rfl, rfl⟩ := commitUpdate_eq_some hcommit
      have hset : (s.setAllocation c.input.allocationId (c.input.apply now row)).UniqueEvents :=
        ⟨h.shipment, h.status⟩
      have hcreated : ((s.setAllocation c.input.allocationId (c.input.apply now row)).createEvent
          c.input (c.input.apply now row)).UniqueEvents := hset.createEvent hevent
      exact ⟨hcreated.shipment, hcreated.status⟩

lemma UniqueEvents.ofOutside {m : IntegrationMove} (h : s.UniqueEvents)
    (hm : s.outside m = some s') : s'.UniqueEvents := by
  unfold outside at hm
  repeat' split at hm
  all_goals simp only [Option.some.injEq, reduceCtorEq] at hm
  all_goals
    rw [← hm]
    exact ⟨h.shipment, h.status⟩

end IntegrationStore

theorem orderUpdates_sound : orderUpdates.Sound IntegrationStore.New UpdatesAdmit
    IntegrationStore.UniqueEvents UpdateCall.Sound where
  init := by
    rintro s ⟨hshipment, hstatus, -⟩
    refine ⟨?_, ?_⟩
    · rw [hshipment]
      exact List.nodup_nil
    · rw [hstatus]
      exact List.nodup_nil
  start := fun i s input _ => UpdateCall.sound_of_unlocked rfl
  run := by
    intro w i answer c s c' hw hc hadmits hrun
    have hsound := hw.2 i c hc
    exact ⟨hw.1.ofWrites (UpdateCall.run_writes hrun),
      UpdateCall.run_sound hsound (hadmits c hc) hrun⟩
  interference := by
    intro w i answer c s c' hw hc hadmits hrun j e hij he
    have hprotects := IntegrationStore.Protects.ofWrites hij (hw.2 i c hc)
      (UpdateCall.run_writes hrun)
    exact hprotects.sound (hw.2 j e he)
  outside := by
    intro w m s hw hadmits hm
    refine ⟨hw.1.ofOutside hm, fun j e he => ?_⟩
    refine (IntegrationStore.Protects.ofOutside ?_ hm).sound (hw.2 j e he)
    rintro order time rfl
    exact hadmits

/-- **Order updates stay inside the vendor.**  In every run whose steps `UpdatesAdmit` admits, each
key has at most one event, and every step of a call replies of an allocation of its vendor only,
changes nothing when its event exists, and writes to no allocation of another vendor, of a
cancelled order or on a customer cancellation hold. -/
theorem orderUpdates_stayInsideVendor {w : World IntegrationStore UpdateCall}
    (hw : orderUpdates.Reaches IntegrationStore.New UpdatesAdmit w) :
    w.shared.UniqueEvents ∧ ∀ i answer c w' c', w.process i = some c →
      UpdatesAdmit w (.run i answer) → orderUpdates.step (.run i answer) w = .ok w' →
        w'.process i = some c' → c.Respects w.shared w'.shared c' := by
  have hsound := orderUpdates_sound.holds hw
  refine ⟨hsound.1, fun i answer c w' c' hc hadmits hstep hc' => ?_⟩
  obtain ⟨d, s, q, hd, hrun, rfl⟩ := Program.step_run_ok.mp hstep
  rw [hc] at hd
  obtain rfl := Option.some.inj hd
  rw [World.withProcess_same] at hc'
  obtain rfl := Option.some.inj hc'
  exact UpdateCall.run_respects (hsound.2 i c hc) (hadmits c hc) hrun

/-! ### A key that was used before a transfer -/

def sampleIntegrationAllocation : IntegrationAllocation where
  shopifyOrderId := 9
  assignedVendorId := 1
  outboundMethodSnapshot := none
  outboundIntegrationProviderSnapshot := none
  allocationStatus := .active
  reassignmentRequired := false
  cancellationReason := none
  carrier := none
  trackingNumber := none
  vendorIntegrationTrackingUrl := none
  vendorIntegrationShippedAt := none
  shippingStatus := "Pending"
  lastVendorIntegrationShipmentRequestId := none
  vendorIntegrationStatus := none
  vendorIntegrationStatusMessage := none
  vendorIntegrationStatusUpdatedAt := none
  vendorIntegrationProvider := none
  lastVendorIntegrationRequestId := none

def sampleIntegrationStore : IntegrationStore where
  allocation := fun id => if id = 4 then some sampleIntegrationAllocation else none
  cancelledAt := fun _ => none
  pendingHold := fun _ => false
  shipmentEvents := []
  statusEvents := []
  lock := fun _ => none

/-- A status update of allocation 4 by a client of a vendor. -/
def sampleStatusUpdate (clientId vendorId : Id) (status : String) : OrderUpdateInput where
  allocationId := 4
  context := ⟨clientId, vendorId, "provider", none⟩
  idempotencyKey := "key"
  update := .status status none
  requestId := none

/-- Call `i` runs to its commit. -/
def sampleFirstWrite (i : ℕ) (input : OrderUpdateInput) :
    List (Move OrderUpdateInput UpdateAnswer IntegrationMove) :=
  [.start i input, .run i (.statement 1), .run i (.statement 1), .run i (.locked false),
    .run i (.statement 1), .run i (.statement 2)]

/-- Vendor 1 acknowledges and rejects the order, which goes to vendor 2. -/
def sampleTransfer : List (Move OrderUpdateInput UpdateAnswer IntegrationMove) :=
  sampleFirstWrite 1 (sampleStatusUpdate 11 1 "acknowledged") ++
    [.outside (.edit 4 { sampleIntegrationAllocation with
        allocationStatus := .vendorBlocked
        reassignmentRequired := true }),
      .outside (.transfer 4 2)] ++
    sampleFirstWrite 2 (sampleStatusUpdate 12 2 "processing")

/-- The witness: the new vendor repeats its own key. -/
theorem orderUpdates_stayInsideVendor_newVendor : ∃ w w' : World IntegrationStore UpdateCall,
    ∃ c c' : UpdateCall, c.Respects w.shared w'.shared c' ∧
      (∃ r, c'.position = .ended (.replied r) ∧ r.vendorIdentifier = 2) := by
  have hrun : Succeeds (runActions (guarded UpdatesAdmit () orderUpdates.step)
      (sampleTransfer ++ [.start 3 (sampleStatusUpdate 12 2 "again")])
      (World.init sampleIntegrationStore)) fun w =>
        UpdatesAdmit w (.run 3 (.statement 3)) ∧ (∃ c ∈ w.process 3, c.position = .findEvent) ∧
        Succeeds (orderUpdates.step (.run 3 (.statement 3)) w) fun w' =>
          ∃ c' ∈ w'.process 3, c'.position = .ended (.replied (.status true
            ⟨4, 2, some "processing", none, some 2, some "provider", none⟩)) := by
    decide +kernel
  obtain ⟨w, hw, hadmits, ⟨c, hc, -⟩, hstep⟩ := succeeds_iff.mp hrun
  obtain ⟨w', hw', c', hc', hreply⟩ := succeeds_iff.mp hstep
  have hreaches : orderUpdates.Reaches IntegrationStore.New UpdatesAdmit w :=
    reachable_of_runGuarded (.start ⟨sampleIntegrationStore, ⟨rfl, rfl, fun _ => rfl⟩, rfl⟩) hw
  exact ⟨w, w', c, c', (orderUpdates_stayInsideVendor hreaches).2 3 _ c w' c' hc hadmits hw' hc',
    _, hreply, rfl⟩

/-- Vendor 1 repeats its key after the transfer and is told the status that vendor 2 reported. -/
theorem orderUpdates_replayAfterTransfer : ∃ w w' : World IntegrationStore UpdateCall,
    ∃ c c' : UpdateCall, orderUpdates.Reaches IntegrationStore.New (fun _ _ => True) w ∧
      w.process 3 = some c ∧ orderUpdates.step (.run 3 (.statement 3)) w = .ok w' ∧
      w'.process 3 = some c' ∧ c.input.context.vendorIdentifier = 1 ∧
      c'.position = .ended (.replied (.status true
        ⟨4, 2, some "processing", none, some 2, some "provider", none⟩)) ∧
      ¬c.Respects w.shared w'.shared c' := by
  have hrun : Succeeds (runActions orderUpdates.step
      (sampleTransfer ++ [.start 3 (sampleStatusUpdate 11 1 "acknowledged")])
      (World.init sampleIntegrationStore)) fun w =>
        (∃ c ∈ w.process 3, c.input.context.vendorIdentifier = 1) ∧
        Succeeds (orderUpdates.step (.run 3 (.statement 3)) w) fun w' =>
          (∃ c' ∈ w'.process 3, c'.position = .ended (.replied (.status true
            ⟨4, 2, some "processing", none, some 2, some "provider", none⟩))) ∧
          ∀ allocation ∈ w'.shared.allocation 4, allocation.assignedVendorId = 2 := by
    decide +kernel
  obtain ⟨w, hw, ⟨c, hc, hvendor⟩, hstep⟩ := succeeds_iff.mp hrun
  obtain ⟨w', hw', ⟨c', hc', hreply⟩, hassigned⟩ := succeeds_iff.mp hstep
  refine ⟨w, w', c, c', ?_, hc, hw', hc', hvendor, hreply, fun hrespects => ?_⟩
  · exact reachable_of_runActions
      (.start ⟨sampleIntegrationStore, ⟨rfl, rfl, fun _ => rfl⟩, rfl⟩) (fun _ _ _ => trivial) hw
  · obtain ⟨allocation, hallocation, hown⟩ := hrespects.reply _ hreply
    have hother := hassigned allocation hallocation
    rw [hvendor, hother] at hown
    cases hown

end VendorDashboard.VendorIntegration

import Mathlib.Data.Option.Basic
import VendorDashboard.VendorIntegration.SopyoDeliveryPoll

/-!
# Observations of Sopyo deliveries

A delivered order is to prove one allocation delivered.  The poller counts the local matches of a
tracking number among the allocations that have no observation yet, so a number that was used
before proves another allocation with the same order (`delivery_reused`).

`Undisputed` is the condition under which a write counts right: no observed allocation of the vendor
is connected with the number or the order.  In runs whose writes all have it, an order proves one
allocation, and each observation rests on a push or on the only live match (`delivery_observed`).
-/

namespace VendorDashboard.SopyoDelivery

open Finance (Id)
open Interleaving Run Table Text Transaction

abbrev DeliveryWorld := World DeliveryStore PollPosition

abbrev DeliverySystemMove := Move Unit PollAnswer DeliveryMove

/-! ## What is claimed -/

/-- The allocation was observed through the Sopyo order. -/
def Observes (row : DeliveryAllocation) (reference : String) : Prop :=
  ∃ observation, row.deliveredObservation = some observation ∧
    observation.outboundIntegrationProvider = some .sopyo ∧
    observation.sourceReference = reference

/-- The tracking number of live provenance. -/
def liveNumber (s : DeliveryStore) (row : DeliveryAllocation) : Option String :=
  (authority (s.candidate row)).map Authority.trackingNumber

/-- An order proves at most one allocation of a vendor. -/
def OneAllocation (s : DeliveryStore) : Prop :=
  ∀ a ∈ s.allocations, ∀ b ∈ s.allocations, a.assignedVendorId = b.assignedVendorId →
    ∀ reference, Observes a reference → Observes b reference → a.id = b.id

/-- The successful push of the allocation names the order, or the allocation alone has live
provenance for the tracking number of the order and its push names no other. -/
def Proven (s : DeliveryStore) (row : DeliveryAllocation) (reference : String) : Prop :=
  (∃ push, successfulPush row = some push ∧ push.sopyoOrderId = some reference) ∨
    ∃ order ∈ s.orders row.assignedVendorId, order.id = reference ∧
      trackingMatchesPush row reference = true ∧
      ∀ b ∈ s.allocations, isSopyo b = true → b.assignedVendorId = row.assignedVendorId →
        (liveNumber s b = some (trim order.trackingNumber) ↔ b.id = row.id)

/-- An observation stays as it is. -/
def KeepsObservations (s s' : DeliveryStore) : Prop :=
  ∀ a ∈ s.allocations, ∀ observation, a.deliveredObservation = some observation →
    ∃ a' ∈ s'.allocations, a'.id = a.id ∧ a'.deliveredObservation = some observation

/-- Every new observation was proven before the write. -/
def ObservesProven (s s' : DeliveryStore) : Prop :=
  ∀ a' ∈ s'.allocations, ∀ reference, Observes a' reference →
    ∃ a ∈ s.allocations, a.id = a'.id ∧ (Observes a reference ∨ Proven s a reference)

/-! ## Which writes count right -/

/-- No observed allocation of the vendor has, or was observed through, the number, or was observed
by a push that names the order. -/
def Undisputed (s : DeliveryStore) (vendorId : Id) (number orderId : String) : Prop :=
  ∀ b ∈ s.allocations, isSopyo b = true → b.assignedVendorId = vendorId →
    b.deliveredObservation ≠ none → liveNumber s b ≠ some number ∧
      b.observedThrough ≠ some number ∧
      (b.observedThrough = none → ∀ push ∈ successfulPush b, push.sopyoOrderId ≠ some orderId)

/-- No other allocation of the vendor was observed through the number of the order. -/
def Unclaimed (s : DeliveryStore) (vendorId allocationId : Id) (orderId : String) : Prop :=
  ∀ order ∈ s.orders vendorId, order.id = orderId → ∀ b ∈ s.allocations,
    b.assignedVendorId = vendorId → b.id ≠ allocationId →
      b.observedThrough ≠ some (trim order.trackingNumber)

/-- A write that records something counts right. -/
def PollPosition.CountsRight (s : DeliveryStore) : PollPosition → Prop
  | .writePush allocationId push orderId work _ =>
      pushedAllocation s allocationId push orderId ≠ none →
        Unclaimed s work.vendorId allocationId orderId
  | .writeTracking number orderId work _ =>
      trackedAllocation s work.vendorId number orderId ≠ none →
        Undisputed s work.vendorId number orderId
  | _ => True

def CountsRight (w : DeliveryWorld) : DeliverySystemMove → Prop
  | .run i .done => ∀ p ∈ w.process i, p.CountsRight w.shared
  | _ => True

/-! ## What a step does to the store -/

/-- A row after a step. -/
structure RowFollows (a a' : DeliveryAllocation) : Prop where
  id : a'.id = a.id
  sopyo : isSopyo a' = isSopyo a
  push : ∀ p, a.sopyoOrderPush = some p → ∃ p', a'.sopyoOrderPush = some p' ∧ p'.id = p.id ∧
    p'.assignedVendorId = p.assignedVendorId ∧ p'.orderCode = p.orderCode ∧
    (p.status = .succeeded → p' = p)
  observation : ∀ observation, a.deliveredObservation = some observation →
    a'.deliveredObservation = some observation ∧ a'.observedThrough = a.observedThrough
  delivered : a.shippingStatus = "delivered" →
    a'.assignedVendorId = a.assignedVendorId ∧ a'.shippingStatus = "delivered"

/-- The orders of the provider keep their id, code and number. -/
def OrdersFollow (s s' : DeliveryStore) : Prop :=
  ∀ vendorId, ∀ order ∈ s.orders vendorId, ∃ order' ∈ s'.orders vendorId,
    order'.id = order.id ∧ order'.orderCode = order.orderCode ∧
      order'.trackingNumber = order.trackingNumber

/-- The store after a step: rows follow the ones before or are new and unobserved. -/
structure StoreFollows (f : DeliveryAllocation → DeliveryAllocation) (s s' : DeliveryStore) :
    Prop where
  rows : ∃ new, s'.allocations = s.allocations.map f ++ new ∧
    ∀ a ∈ new, a.deliveredObservation = none
  follows : ∀ a ∈ s.allocations, RowFollows a (f a)
  orders : OrdersFollow s s'
  ids : KeyUnique DeliveryAllocation.id s'.allocations
  orderIds : ∀ vendorId, KeyUnique SopyoOrder.id (s'.orders vendorId)

lemma RowFollows.refl (a : DeliveryAllocation) : RowFollows a a where
  id := rfl
  sopyo := rfl
  push p hp := ⟨p, hp, rfl, rfl, rfl, fun _ => rfl⟩
  observation _ hobs := ⟨hobs, rfl⟩
  delivered hdelivered := ⟨rfl, hdelivered⟩

lemma OrdersFollow.refl (s : DeliveryStore) : OrdersFollow s s :=
  fun _ order horder => ⟨order, horder, rfl, rfl, rfl⟩

/-- A successful push of a delivered allocation stays. -/
lemma RowFollows.successfulPush {a a' : DeliveryAllocation} (h : RowFollows a a')
    (hdelivered : a.shippingStatus = "delivered") {push : OrderPush}
    (hpush : SopyoDelivery.successfulPush a = some push) :
    SopyoDelivery.successfulPush a' = some push := by
  obtain ⟨hsome, hmatches⟩ := Option.filter_eq_some_iff.mp hpush
  obtain ⟨p', hp', -, -, -, hsame⟩ := h.push push hsome
  have hsucceeded : push.status = .succeeded := by
    simp only [Bool.and_eq_true, decide_eq_true_eq] at hmatches
    exact hmatches.1.1.1.1
  rw [hsame hsucceeded] at hp'
  refine Option.filter_eq_some_iff.mpr ⟨hp', ?_⟩
  rw [h.id, (h.delivered hdelivered).1]
  exact hmatches

lemma StoreFollows.mem {f : DeliveryAllocation → DeliveryAllocation} {s s' : DeliveryStore}
    (h : StoreFollows f s s') {a : DeliveryAllocation} (ha : a ∈ s.allocations) :
    f a ∈ s'.allocations := by
  obtain ⟨new, hrows, -⟩ := h.rows
  rw [hrows]
  exact List.mem_append_left _ (List.mem_map_of_mem ha)

/-- An observed row was there before. -/
lemma StoreFollows.observed {f : DeliveryAllocation → DeliveryAllocation} {s s' : DeliveryStore}
    (h : StoreFollows f s s') {a' : DeliveryAllocation} (ha' : a' ∈ s'.allocations)
    {reference : String} (hobserves : Observes a' reference) : ∃ a ∈ s.allocations, f a = a' := by
  obtain ⟨new, hrows, hnew⟩ := h.rows
  rw [hrows, List.mem_append, List.mem_map] at ha'
  rcases ha' with ⟨a, ha, rfl⟩ | ha'
  · exact ⟨a, ha, rfl⟩
  · obtain ⟨observation, hsome, -⟩ := hobserves
    rw [hnew a' ha'] at hsome
    cases hsome

lemma StoreFollows.keepsObservations {f : DeliveryAllocation → DeliveryAllocation}
    {s s' : DeliveryStore} (h : StoreFollows f s s') : KeepsObservations s s' :=
  fun a ha observation hobs =>
    ⟨f a, h.mem ha, (h.follows a ha).id, ((h.follows a ha).observation observation hobs).1⟩

/-! ## Steps of the store -/

section Steps

variable {s s' : DeliveryStore}

/-- Rows and orders are told apart by their ids. -/
structure Keyed (s : DeliveryStore) : Prop where
  ids : KeyUnique DeliveryAllocation.id s.allocations
  orderIds : ∀ vendorId, KeyUnique SopyoOrder.id (s.orders vendorId)

/-- A change of the row `id`. -/
def changeRow (id : Id) (g : DeliveryAllocation → DeliveryAllocation) (a : DeliveryAllocation) :
    DeliveryAllocation :=
  if a.id == id then g a else a

lemma StoreFollows.same (h : Keyed s) (hrows : s'.allocations = s.allocations)
    (horders : s'.orders = s.orders) : StoreFollows (fun a => a) s s' where
  rows := ⟨[], by rw [hrows, List.map_id', List.append_nil], by simp⟩
  follows a _ := .refl a
  orders vendorId order horder := ⟨order, by rw [horders]; exact horder, rfl, rfl, rfl⟩
  ids := by
    rw [hrows]
    exact h.ids
  orderIds vendorId := by
    rw [horders]
    exact h.orderIds vendorId

lemma StoreFollows.update (h : Keyed s) {id : Id} {g : DeliveryAllocation → DeliveryAllocation}
    (hg : ∀ a ∈ s.allocations, a.id = id → RowFollows a (g a)) :
    StoreFollows (changeRow id g) s (s.updateAllocation id g) where
  rows := ⟨[], by rw [List.append_nil]; rfl, by simp⟩
  follows a ha := by
    unfold changeRow
    split
    · rename_i hid
      exact hg a ha (beq_iff_eq.mp hid)
    · exact .refl a
  orders := .refl s
  ids := by
    unfold KeyUnique DeliveryStore.updateAllocation updateWhere
    rw [List.map_map]
    have hsame : s.allocations.map
        (DeliveryAllocation.id ∘ fun a => if a.id == id then g a else a) =
          s.allocations.map DeliveryAllocation.id := by
      refine List.map_congr_left fun a ha => ?_
      change (if a.id == id then g a else a).id = a.id
      split
      · rename_i hid
        exact (hg a ha (beq_iff_eq.mp hid)).id
      · rfl
    rw [hsame]
    exact h.ids
  orderIds := h.orderIds

lemma StoreFollows.keyed {f : DeliveryAllocation → DeliveryAllocation}
    (h : StoreFollows f s s') : Keyed s' := ⟨h.ids, h.orderIds⟩

/-- A source is recorded, unless the allocation was observed before. -/
lemma record_eq_some {id : Id} {source : VerifiedDeliveredSource} {through : Option String}
    (h : recordVerifiedDeliveredObservation id source through s = some s') :
    ∃ row, s.allocation id = some row ∧ sourceMatches s row source = true ∧
      s' = if row.deliveredObservation = none then
          s.updateAllocation id (observedRow source through)
        else s := by
  unfold recordVerifiedDeliveredObservation at h
  simp only [Option.bind_eq_bind, Option.bind_eq_some_iff, Option.guard_eq_some'] at h
  obtain ⟨-, -, row, hrow, -, -, -, hmatches, h⟩ := h
  refine ⟨row, hrow, hmatches, ?_⟩
  split at h
  · rename_i observation hobserved
    simp only [Option.bind_eq_some_iff, Option.guard_eq_some'] at h
    obtain ⟨-, -, h⟩ := h
    rw [hobserved, if_neg (Option.some_ne_none observation)]
    exact (Option.some.inj h).symm
  · rename_i hnone
    rw [if_pos hnone]
    exact (Option.some.inj h).symm

lemma rowFollows_observed {a : DeliveryAllocation} {source : VerifiedDeliveredSource}
    {through : Option String} (h : a.deliveredObservation = none) :
    RowFollows a (observedRow source through a) where
  id := rfl
  sopyo := rfl
  push p hp := ⟨p, hp, rfl, rfl, rfl, fun _ => rfl⟩
  observation _ hobs := by
    rw [h] at hobs
    cases hobs
  delivered hdelivered := ⟨rfl, hdelivered⟩

/-- A row that the poller has observed. -/
def markedRow (source : VerifiedDeliveredSource) (through : Option String)
    (a : DeliveryAllocation) : DeliveryAllocation :=
  { observedRow source through a with shippingStatus := "delivered" }

lemma rowFollows_marked {a : DeliveryAllocation} {source : VerifiedDeliveredSource}
    {through : Option String} (h : a.deliveredObservation = none) :
    RowFollows a (markedRow source through a) where
  id := rfl
  sopyo := rfl
  push p hp := ⟨p, hp, rfl, rfl, rfl, fun _ => rfl⟩
  observation _ hobs := by
    rw [h] at hobs
    cases hobs
  delivered _ := ⟨rfl, rfl⟩

lemma markDelivered_observed (id : Id) (source : VerifiedDeliveredSource)
    (through : Option String) (s : DeliveryStore) :
    markDelivered id (s.updateAllocation id (observedRow source through)) =
      s.updateAllocation id (markedRow source through) := by
  unfold markDelivered DeliveryStore.updateAllocation updateWhere
  simp only [List.map_map, DeliveryStore.mk.injEq, and_self, and_true]
  refine List.map_congr_left fun a _ => ?_
  by_cases hid : a.id = id
  · simp [hid, observedRow, markedRow]
  · simp [hid]

/-! ### The surroundings -/

lemma evidence_of_delivered {a : DeliveryAllocation} (h : a.shippingStatus = "delivered") :
    hasShipmentEvidence a = true := by
  have hstatus : toLowerCase (trim "delivered") ∈
      VendorIntegration.SHIPPED_STATUS_VALUES := by decide
  simp only [hasShipmentEvidence, h, hstatus, decide_true, Bool.true_or]

lemma rowFollows_transfer (toVendorId : Id) (a : DeliveryAllocation) :
    RowFollows a
      (if hasShipmentEvidence a then a else { a with assignedVendorId := toVendorId }) := by
  split
  · exact .refl a
  · rename_i hnone
    exact {
      id := rfl
      sopyo := rfl
      push := fun p hp => ⟨p, hp, rfl, rfl, rfl, fun _ => rfl⟩
      observation := fun _ hobs => ⟨hobs, rfl⟩
      delivered := fun hdelivered => (hnone (evidence_of_delivered hdelivered)).elim }

lemma rowFollows_push {g : OrderPush → OrderPush} (a : DeliveryAllocation)
    (hg : ∀ p, (g p).id = p.id ∧ (g p).assignedVendorId = p.assignedVendorId ∧
      (g p).orderCode = p.orderCode ∧ (p.status = .succeeded → g p = p)) :
    RowFollows a { a with sopyoOrderPush := a.sopyoOrderPush.map g } where
  id := rfl
  sopyo := rfl
  push p hp := by
    obtain ⟨hid, hvendor, hcode, hsame⟩ := hg p
    refine ⟨g p, ?_, hid, hvendor, hcode, hsame⟩
    change a.sopyoOrderPush.map g = _
    rw [hp]
    rfl
  observation _ hobs := ⟨hobs, rfl⟩
  delivered hdelivered := ⟨rfl, hdelivered⟩

lemma setPushStatus_follows (status : VendorIntegration.SopyoOrderPushStatus)
    (sopyoOrderId : Option String) (p : OrderPush) :
    (setPushStatus status sopyoOrderId p).id = p.id ∧
      (setPushStatus status sopyoOrderId p).assignedVendorId = p.assignedVendorId ∧
      (setPushStatus status sopyoOrderId p).orderCode = p.orderCode ∧
      (p.status = .succeeded → setPushStatus status sopyoOrderId p = p) := by
  unfold setPushStatus
  split
  · exact ⟨rfl, rfl, rfl, fun _ => rfl⟩
  · rename_i hne
    exact ⟨rfl, rfl, rfl, fun hsucceeded => (hne hsucceeded).elim⟩

lemma rowFollows_createPush (push : OrderPush) (a : DeliveryAllocation) :
    RowFollows a { a with sopyoOrderPush := some (a.sopyoOrderPush.getD push) } where
  id := rfl
  sopyo := rfl
  push p hp := by
    refine ⟨p, ?_, rfl, rfl, rfl, fun _ => rfl⟩
    change some (a.sopyoOrderPush.getD push) = some p
    rw [hp]
    rfl
  observation _ hobs := ⟨hobs, rfl⟩
  delivered hdelivered := ⟨rfl, hdelivered⟩

lemma rowFollows_tracking (trackingNumber carrier : Option String) (a : DeliveryAllocation) :
    RowFollows a { a with trackingNumber := trackingNumber, carrier := carrier } where
  id := rfl
  sopyo := rfl
  push p hp := ⟨p, hp, rfl, rfl, rfl, fun _ => rfl⟩
  observation _ hobs := ⟨hobs, rfl⟩
  delivered hdelivered := ⟨rfl, hdelivered⟩

lemma setOrderStatus_same (status : ℤ) (order : SopyoOrder) :
    (setOrderStatus status order).id = order.id ∧
      (setOrderStatus status order).orderCode = order.orderCode ∧
      (setOrderStatus status order).trackingNumber = order.trackingNumber := by
  unfold setOrderStatus
  split
  · exact ⟨rfl, rfl, rfl⟩
  · exact ⟨rfl, rfl, rfl⟩

/-- New orders of one vendor. -/
lemma StoreFollows.orders_of (h : Keyed s) {vendorId : Id} {new : List SopyoOrder}
    (hnew : KeyUnique SopyoOrder.id new)
    (hfollow : ∀ order ∈ s.orders vendorId, ∃ order' ∈ new, order'.id = order.id ∧
      order'.orderCode = order.orderCode ∧ order'.trackingNumber = order.trackingNumber) :
    StoreFollows (fun a => a) s { s with orders := Function.update s.orders vendorId new } where
  rows := ⟨[], by rw [List.map_id', List.append_nil], by simp⟩
  follows a _ := .refl a
  orders v order horder := by
    by_cases hv : v = vendorId
    · subst hv
      obtain ⟨order', horder', hsame⟩ := hfollow order horder
      refine ⟨order', ?_, hsame⟩
      change order' ∈ Function.update s.orders v new v
      rw [Function.update_self]
      exact horder'
    · refine ⟨order, ?_, rfl, rfl, rfl⟩
      change order ∈ Function.update s.orders vendorId new v
      rw [Function.update_of_ne hv]
      exact horder
  ids := h.ids
  orderIds v := by
    by_cases hv : v = vendorId
    · subst hv
      change KeyUnique SopyoOrder.id (Function.update s.orders v new v)
      rw [Function.update_self]
      exact hnew
    · change KeyUnique SopyoOrder.id (Function.update s.orders vendorId new v)
      rw [Function.update_of_ne hv]
      exact h.orderIds v

/-- A row is observed through no other order than before. -/
def Quiet (f : DeliveryAllocation → DeliveryAllocation) (s : DeliveryStore) : Prop :=
  ∀ a ∈ s.allocations, ∀ reference, Observes (f a) reference → Observes a reference

lemma Quiet.changeRow {id : Id} {g : DeliveryAllocation → DeliveryAllocation}
    (h : ∀ a, (g a).deliveredObservation = a.deliveredObservation) :
    Quiet (SopyoDelivery.changeRow id g) s := by
  intro a _ reference hobserves
  unfold SopyoDelivery.changeRow at hobserves
  split at hobserves
  · obtain ⟨observation, hsome, hrest⟩ := hobserves
    rw [h] at hsome
    exact ⟨observation, hsome, hrest⟩
  · exact hobserves

/-- The surroundings observe nothing through Sopyo. -/
lemma outside_follows (hkeyed : Keyed s) {e : DeliveryMove} (h : s.outside e = some s') :
    ∃ f, StoreFollows f s s' ∧ Quiet f s := by
  unfold DeliveryStore.outside at h
  cases e with
  | createAllocation row =>
      dsimp only at h
      split at h
      · rename_i hnew
        obtain rfl := Option.some.inj h
        refine ⟨fun a => a, ⟨⟨[row], by rw [List.map_id'], ?_⟩, fun a _ => .refl a, .refl s, ?_,
          hkeyed.orderIds⟩, fun _ _ _ hobserves => hobserves⟩
        · intro a ha
          rw [List.mem_singleton.mp ha]
          exact hnew.2.2.1
        · refine keyUnique_append.mpr ⟨hkeyed.ids, List.nodup_singleton _, ?_⟩
          intro a ha b hb heq
          rw [List.mem_singleton.mp hb] at heq
          exact hnew.1 (heq ▸ List.mem_map_of_mem ha)
      · cases h
  | setTracking id trackingNumber carrier =>
      obtain rfl := Option.some.inj h
      exact ⟨_, .update hkeyed fun a _ _ => rowFollows_tracking trackingNumber carrier a,
        .changeRow fun _ => rfl⟩
  | addEvent event =>
      obtain rfl := Option.some.inj h
      exact ⟨_, .same hkeyed rfl rfl, fun _ _ _ hobserves => hobserves⟩
  | createPush push =>
      dsimp only at h
      split at h
      · obtain rfl := Option.some.inj h
        exact ⟨_, .update hkeyed fun a _ _ => rowFollows_createPush push a,
          .changeRow fun _ => rfl⟩
      · cases h
  | setPush id status sopyoOrderId =>
      obtain rfl := Option.some.inj h
      exact ⟨_, .update hkeyed fun a _ _ =>
        rowFollows_push a (setPushStatus_follows status sopyoOrderId), .changeRow fun _ => rfl⟩
  | transfer id toVendorId =>
      obtain rfl := Option.some.inj h
      refine ⟨_, .update hkeyed fun a _ _ => rowFollows_transfer toVendorId a,
        .changeRow fun a => ?_⟩
      split
      · rfl
      · rfl
  | setClient id client =>
      obtain rfl := Option.some.inj h
      exact ⟨_, .same hkeyed rfl rfl, fun _ _ _ hobserves => hobserves⟩
  | setCredentials vendorIds =>
      obtain rfl := Option.some.inj h
      exact ⟨_, .same hkeyed rfl rfl, fun _ _ _ hobserves => hobserves⟩
  | setExecution id execution =>
      obtain rfl := Option.some.inj h
      exact ⟨_, .same hkeyed rfl rfl, fun _ _ _ hobserves => hobserves⟩
  | recordKargonomi allocationId executionId sourceReference =>
      obtain ⟨row, hrow, -, rfl⟩ := record_eq_some h
      by_cases hnone : row.deliveredObservation = none
      · rw [if_pos hnone]
        refine ⟨_, .update hkeyed fun a ha hid => ?_, ?_⟩
        · have hsame : a = row := hkeyed.ids.eq ha (mem_of_findRow hrow)
            (hid.trans (key_of_findRow hrow).symm)
          subst hsame
          exact rowFollows_observed hnone
        · intro a _ reference hobserves
          unfold changeRow at hobserves
          split at hobserves
          · obtain ⟨observation, hsome, hsopyo, -⟩ := hobserves
            obtain rfl := Option.some.inj hsome
            cases hsopyo
          · exact hobserves
      · rw [if_neg hnone]
        exact ⟨_, .same hkeyed rfl rfl, fun _ _ _ hobserves => hobserves⟩
  | placeOrder vendorId order =>
      dsimp only at h
      split at h
      · rename_i hnew
        obtain rfl := Option.some.inj h
        refine ⟨_, .orders_of hkeyed ?_ ?_, fun _ _ _ hobserves => hobserves⟩
        · refine keyUnique_append.mpr ⟨hkeyed.orderIds vendorId, List.nodup_singleton _, ?_⟩
          intro a ha b hb heq
          rw [List.mem_singleton.mp hb] at heq
          exact hnew (heq ▸ List.mem_map_of_mem ha)
        · exact fun old hold => ⟨old, List.mem_append_left _ hold, rfl, rfl, rfl⟩
      · cases h
  | setOrderStatus vendorId orderId status =>
      obtain rfl := Option.some.inj h
      refine ⟨_, .orders_of hkeyed ?_ ?_, fun _ _ _ hobserves => hobserves⟩
      · exact (hkeyed.orderIds vendorId).updateWhere fun order =>
          (setOrderStatus_same status order).1
      · intro order horder
        refine ⟨_, mem_updateWhere.mpr ⟨order, horder, rfl⟩, ?_⟩
        split
        · exact setOrderStatus_same status order
        · exact ⟨rfl, rfl, rfl⟩

/-! ### The cycles -/

lemma pushedAllocation_eq_some {id : Id} {push currentPush : OrderPush} {orderId : String}
    {row : DeliveryAllocation}
    (h : pushedAllocation s id push orderId = some (row, currentPush)) :
    s.allocation id = some row ∧ sopyoUnobserved row = true ∧
      successfulPush row = some currentPush ∧ currentPush.id = push.id ∧
      currentPush.sopyoOrderId = some orderId := by
  unfold pushedAllocation at h
  simp only [Option.bind_eq_bind, Option.bind_eq_some_iff, Option.filter_eq_some_iff] at h
  obtain ⟨current, ⟨hrow, hunobserved⟩, found, hfound, h⟩ := h
  split at h
  · rename_i hsame
    obtain ⟨rfl, rfl⟩ := Prod.mk.inj (Option.some.inj h)
    exact ⟨hrow, hunobserved, hfound, hsame.1, hsame.2⟩
  · cases h

lemma trackedAllocation_eq_some {vendorId clientId : Id} {number orderId : String}
    {row : DeliveryAllocation}
    (h : trackedAllocation s vendorId number orderId = some (row, clientId)) :
    provenFor s vendorId number = [row] ∧ trackingMatchesPush row orderId = true := by
  unfold trackedAllocation at h
  split at h
  · rename_i found hfound
    simp only [Option.bind_eq_bind, Option.bind_eq_some_iff] at h
    obtain ⟨proven, -, client, -, h⟩ := h
    split at h
    · rename_i hmatches
      obtain ⟨rfl, rfl⟩ := Prod.mk.inj (Option.some.inj h)
      exact ⟨hfound, hmatches⟩
    · cases h
  · cases h

/-- The poller has observed `row` through `source`. -/
structure Recorded (s s' : DeliveryStore) (row : DeliveryAllocation)
    (source : VerifiedDeliveredSource) (through : Option String) : Prop where
  mem : row ∈ s.allocations
  unobserved : sopyoUnobserved row = true
  sourceMatches : sourceMatches s row source = true
  store : s' = s.updateAllocation row.id (markedRow source through)

lemma recorded_of_write {row : DeliveryAllocation} {source : VerifiedDeliveredSource}
    {through : Option String} (hkeyed : Keyed s) (hmem : row ∈ s.allocations)
    (hunobserved : sopyoUnobserved row = true)
    (h : ((recordVerifiedDeliveredObservation row.id source through s).map
      (markDelivered row.id)).getD s = s') :
    s' = s ∨ Recorded s s' row source through := by
  have hfound : s.allocation row.id = some row := findRow_of_mem hkeyed.ids hmem
  have hnone : row.deliveredObservation = none := by
    simp only [sopyoUnobserved, Bool.and_eq_true, Option.isNone_iff_eq_none] at hunobserved
    exact hunobserved.2
  cases hrecord : recordVerifiedDeliveredObservation row.id source through s with
  | none =>
      rw [hrecord] at h
      exact Or.inl h.symm
  | some written =>
      rw [hrecord] at h
      obtain ⟨row', hrow', hmatches, rfl⟩ := record_eq_some hrecord
      rw [hfound] at hrow'
      obtain rfl := Option.some.inj hrow'
      refine Or.inr ⟨hmem, hunobserved, hmatches, ?_⟩
      rw [← markDelivered_observed]
      rw [if_pos hnone] at h
      exact h.symm

/-- What a step of a cycle writes. -/
inductive Writes (s s' : DeliveryStore) : PollPosition → PollAnswer → Prop
  | push {id : Id} {push currentPush : OrderPush} {orderId : String} {work : VendorWork}
      {rest : List VendorWork} {row : DeliveryAllocation}
      (hfound : pushedAllocation s id push orderId = some (row, currentPush))
      (hrecorded : Recorded s s' row (.push currentPush.id orderId) none) :
      Writes s s' (.writePush id push orderId work rest) .done
  | tracking {number orderId : String} {work : VendorWork} {rest : List VendorWork}
      {row : DeliveryAllocation} {clientId : Id}
      (hfound : trackedAllocation s work.vendorId number orderId = some (row, clientId))
      (hrecorded : Recorded s s' row (.client clientId orderId) (some number)) :
      Writes s s' (.writeTracking number orderId work rest) .done

lemma run_writes (hkeyed : Keyed s) {p q : PollPosition} {answer : PollAnswer}
    (h : p.run answer s = some (s', q)) : s' = s ∨ Writes s s' p answer := by
  unfold PollPosition.run at h
  split at h
  case h_1 | h_2 =>
    split at h
    · exact Or.inl (Prod.mk.inj (Option.some.inj h)).1.symm
    · exact Or.inl (Prod.mk.inj (Option.some.inj h)).1.symm
  case h_3 => exact Or.inl (Prod.mk.inj (Option.some.inj h)).1.symm
  case h_4 =>
    split at h
    · exact Or.inl (Prod.mk.inj (Option.some.inj h)).1.symm
    · exact Or.inl (Prod.mk.inj (Option.some.inj h)).1.symm
  case h_5 => exact Or.inl (Prod.mk.inj (Option.some.inj h)).1.symm
  case h_6 id push orderId work rest =>
    unfold PollPosition.commit at h
    cases answer with
    | failed => exact Or.inl (Prod.mk.inj (Option.some.inj h)).1.symm
    | done =>
        have hs' := (Prod.mk.inj (Option.some.inj h)).1
        unfold writeByPush at hs'
        split at hs'
        · exact Or.inl hs'.symm
        · rename_i current currentPush hfound
          obtain ⟨hrow, hunobserved, -⟩ := pushedAllocation_eq_some hfound
          rcases recorded_of_write hkeyed (mem_of_findRow hrow) hunobserved hs' with
            hsame | hrecorded
          · exact Or.inl hsame
          · exact Or.inr (.push hfound hrecorded)
  case h_7 number orderId work rest =>
    unfold PollPosition.commit at h
    cases answer with
    | failed => exact Or.inl (Prod.mk.inj (Option.some.inj h)).1.symm
    | done =>
        have hs' := (Prod.mk.inj (Option.some.inj h)).1
        unfold writeByTracking at hs'
        split at hs'
        · exact Or.inl hs'.symm
        · rename_i row clientId hfound
          have hone := (trackedAllocation_eq_some hfound).1
          have hproven : row ∈ provenFor s work.vendorId number := by
            rw [hone]
            exact List.mem_singleton_self _
          obtain ⟨hmem, hrow⟩ := List.mem_filter.mp hproven
          simp only [Bool.and_eq_true] at hrow
          rcases recorded_of_write hkeyed hmem hrow.1.1 hs' with hsame | hrecorded
          · exact Or.inl hsame
          · exact Or.inr (.tracking hfound hrecorded)
  case h_8 => cases h

end Steps

/-! ## The invariant of the store -/

section Invariant

variable {s s' : DeliveryStore} {f : DeliveryAllocation → DeliveryAllocation}

/-- Why an allocation was observed through an order of its vendor. -/
def Basis (s : DeliveryStore) (a : DeliveryAllocation) (reference : String) : Prop :=
  ∃ order ∈ s.orders a.assignedVendorId, order.id = reference ∧
    ((order.orderCode = a.id ∧ a.observedThrough = none ∧
        ∃ push, successfulPush a = some push ∧ push.sopyoOrderId = some reference) ∨
      a.observedThrough = some (trim order.trackingNumber))

structure DeliverySound (s : DeliveryStore) : Prop extends Keyed s where
  observed : ∀ a ∈ s.allocations, ∀ reference, Observes a reference →
    a.shippingStatus = "delivered" ∧ isSopyo a = true ∧ Basis s a reference
  one : OneAllocation s

lemma Observes.isSome {a : DeliveryAllocation} {reference : String} (h : Observes a reference) :
    a.deliveredObservation ≠ none := by
  obtain ⟨observation, hsome, -⟩ := h
  rw [hsome]
  exact Option.some_ne_none observation

lemma Basis.follows {a : DeliveryAllocation} {reference : String} (h : Basis s a reference)
    (hfollows : StoreFollows f s s') (ha : a ∈ s.allocations) (hobserves : Observes a reference)
    (hdelivered : a.shippingStatus = "delivered") : Basis s' (f a) reference := by
  obtain ⟨order, horder, hid, hbasis⟩ := h
  have hrow := hfollows.follows a ha
  obtain ⟨order', horder', hid', hcode, htracking⟩ := hfollows.orders _ order horder
  refine ⟨order', ?_, hid'.trans hid, ?_⟩
  · rw [(hrow.delivered hdelivered).1]
    exact horder'
  · obtain ⟨observation, hsome, -⟩ := hobserves
    have hsame := (hrow.observation observation hsome).2
    rcases hbasis with ⟨hown, hnone, push, hpush, hnames⟩ | hthrough
    · refine Or.inl ⟨?_, hsame.trans hnone, push, hrow.successfulPush hdelivered hpush, hnames⟩
      rw [hcode, hrow.id]
      exact hown
    · rw [htracking]
      exact Or.inr (hsame.trans hthrough)

/-- A step that observes nothing new keeps the invariant. -/
lemma DeliverySound.follows (h : DeliverySound s) (hfollows : StoreFollows f s s')
    (hquiet : Quiet f s) : DeliverySound s' where
  toKeyed := hfollows.keyed
  observed a' ha' reference hobserves := by
    obtain ⟨a, ha, rfl⟩ := hfollows.observed ha' hobserves
    have hold := hquiet a ha reference hobserves
    obtain ⟨hdelivered, hsopyo, hbasis⟩ := h.observed a ha reference hold
    have hrow := hfollows.follows a ha
    exact ⟨(hrow.delivered hdelivered).2, hrow.sopyo.trans hsopyo,
      hbasis.follows hfollows ha hold hdelivered⟩
  one a' ha' b' hb' hvendor reference hobserves hobserves' := by
    obtain ⟨a, ha, rfl⟩ := hfollows.observed ha' hobserves
    obtain ⟨b, hb, rfl⟩ := hfollows.observed hb' hobserves'
    have hold := hquiet a ha reference hobserves
    have hold' := hquiet b hb reference hobserves'
    have hrow := hfollows.follows a ha
    have hrow' := hfollows.follows b hb
    rw [(hrow.delivered (h.observed a ha reference hold).1).1,
      (hrow'.delivered (h.observed b hb reference hold').1).1] at hvendor
    rw [hrow.id, hrow'.id]
    exact h.one a ha b hb hvendor reference hold hold'

lemma Recorded.deliveredObservation {row : DeliveryAllocation} {source : VerifiedDeliveredSource}
    {through : Option String} (h : Recorded s s' row source through) :
    row.deliveredObservation = none := by
  have hunobserved := h.unobserved
  simp only [sopyoUnobserved, Bool.and_eq_true, Option.isNone_iff_eq_none] at hunobserved
  exact hunobserved.2

lemma Recorded.isSopyo {row : DeliveryAllocation} {source : VerifiedDeliveredSource}
    {through : Option String} (h : Recorded s s' row source through) :
    isSopyo row = true := by
  have hunobserved := h.unobserved
  simp only [sopyoUnobserved, Bool.and_eq_true] at hunobserved
  exact hunobserved.1

lemma Recorded.follows {row : DeliveryAllocation} {source : VerifiedDeliveredSource}
    {through : Option String} (h : Recorded s s' row source through) (hkeyed : Keyed s) :
    StoreFollows (changeRow row.id (markedRow source through)) s s' := by
  rw [h.store]
  refine .update hkeyed fun a ha hid => ?_
  obtain rfl := hkeyed.ids.eq ha h.mem hid
  exact rowFollows_marked h.deliveredObservation

/-- Only the row that was found is observed anew, and through the order. -/
lemma Recorded.observes {row : DeliveryAllocation} {source : VerifiedDeliveredSource}
    {through : Option String} (h : Recorded s s' row source through) (hkeyed : Keyed s)
    {a : DeliveryAllocation} (ha : a ∈ s.allocations) {reference : String}
    (hobserves : Observes (changeRow row.id (markedRow source through) a) reference) :
    (a ≠ row ∧ Observes a reference) ∨ (a = row ∧ reference = source.sourceReference) := by
  unfold changeRow at hobserves
  split at hobserves
  · rename_i hid
    obtain ⟨observation, hsome, -, href⟩ := hobserves
    obtain rfl := Option.some.inj hsome
    exact Or.inr ⟨hkeyed.ids.eq ha h.mem (beq_iff_eq.mp hid), href.symm⟩
  · rename_i hid
    refine Or.inl ⟨?_, hobserves⟩
    rintro rfl
    exact hid (beq_self_eq_true _)

/-- A recorded observation keeps the invariant if no other allocation of the vendor was observed
through the order. -/
lemma DeliverySound.recorded (h : DeliverySound s) {row : DeliveryAllocation}
    {source : VerifiedDeliveredSource} {through : Option String}
    (hrecorded : Recorded s s' row source through)
    (hbasis : Basis s' (markedRow source through row) source.sourceReference)
    (hother : ∀ b ∈ s.allocations, b ≠ row → b.assignedVendorId = row.assignedVendorId →
      ¬Observes b source.sourceReference) : DeliverySound s' := by
  have hfollows := hrecorded.follows h.toKeyed
  have hself : changeRow row.id (markedRow source through) row = markedRow source through row :=
    if_pos (beq_self_eq_true _)
  have hvendor : ∀ a ∈ s.allocations,
      (changeRow row.id (markedRow source through) a).assignedVendorId = a.assignedVendorId := by
    intro a _
    unfold changeRow
    split
    · rfl
    · rfl
  refine ⟨hfollows.keyed, ?_, ?_⟩
  · intro a' ha' reference hobserves
    obtain ⟨a, ha, rfl⟩ := hfollows.observed ha' hobserves
    rcases hrecorded.observes h.toKeyed ha hobserves with ⟨-, hold⟩ | ⟨rfl, rfl⟩
    · obtain ⟨hdelivered, hsopyo, hold'⟩ := h.observed a ha reference hold
      have hrow := hfollows.follows a ha
      exact ⟨(hrow.delivered hdelivered).2, hrow.sopyo.trans hsopyo,
        hold'.follows hfollows ha hold hdelivered⟩
    · rw [hself]
      exact ⟨rfl, hrecorded.isSopyo, hbasis⟩
  · intro a' ha' b' hb' hsame reference hobserves hobserves'
    obtain ⟨a, ha, rfl⟩ := hfollows.observed ha' hobserves
    obtain ⟨b, hb, rfl⟩ := hfollows.observed hb' hobserves'
    rw [hvendor a ha, hvendor b hb] at hsame
    rw [(hfollows.follows a ha).id, (hfollows.follows b hb).id]
    rcases hrecorded.observes h.toKeyed ha hobserves with ⟨hne, hold⟩ | ⟨rfl, rfl⟩
    · rcases hrecorded.observes h.toKeyed hb hobserves' with ⟨-, hold'⟩ | ⟨rfl, rfl⟩
      · exact h.one a ha b hb hsame reference hold hold'
      · exact (hother a ha hne hsame hold).elim
    · rcases hrecorded.observes h.toKeyed hb hobserves' with ⟨hne, hold'⟩ | ⟨rfl, -⟩
      · exact (hother b hb hne hsame.symm hold').elim
      · rfl

end Invariant

/-! ## What a cycle knows -/

section Known

variable {s s' : DeliveryStore} {f : DeliveryAllocation → DeliveryAllocation}

/-- The allocation still has the push, of the vendor. -/
def PushKnown (s : DeliveryStore) (vendorId id : Id) (push : OrderPush) : Prop :=
  ∃ row ∈ s.allocations, row.id = id ∧ ∃ p, row.sopyoOrderPush = some p ∧ p.id = push.id ∧
    p.assignedVendorId = vendorId ∧ p.orderCode = push.orderCode

def WorkKnown (s : DeliveryStore) (work : VendorWork) : Prop :=
  ∀ c ∈ work.pushes, ∀ push, successfulPush c.allocation = some push →
    PushKnown s work.vendorId c.allocation.id push

/-- What the position relies on. -/
def PollPosition.Known (s : DeliveryStore) : PollPosition → Prop
  | .vendors rest => ∀ work ∈ rest, WorkKnown s work
  | .working work rest => WorkKnown s work ∧ ∀ w ∈ rest, WorkKnown s w
  | .writePush id push orderId work rest =>
      (PushKnown s work.vendorId id push ∧
        ∃ order ∈ s.orders work.vendorId, order.id = orderId ∧ order.orderCode = push.orderCode) ∧
        WorkKnown s work ∧ ∀ w ∈ rest, WorkKnown s w
  | .writeTracking number orderId work rest =>
      (∃ order ∈ s.orders work.vendorId, order.id = orderId ∧ trim order.trackingNumber = number) ∧
        WorkKnown s work ∧ ∀ w ∈ rest, WorkKnown s w
  | _ => True

lemma PushKnown.follows {vendorId id : Id} {push : OrderPush} (h : PushKnown s vendorId id push)
    (hfollows : StoreFollows f s s') : PushKnown s' vendorId id push := by
  obtain ⟨row, hrow, hid, p, hp, hpush, hvendor, hcode⟩ := h
  obtain ⟨p', hp', hid', hvendor', hcode', -⟩ := (hfollows.follows row hrow).push p hp
  exact ⟨f row, hfollows.mem hrow, (hfollows.follows row hrow).id.trans hid, p', hp',
    hid'.trans hpush, hvendor'.trans hvendor, hcode'.trans hcode⟩

lemma WorkKnown.follows {work : VendorWork} (h : WorkKnown s work)
    (hfollows : StoreFollows f s s') : WorkKnown s' work :=
  fun c hc push hpush => (h c hc push hpush).follows hfollows

lemma PollPosition.Known.follows {p : PollPosition} (h : p.Known s)
    (hfollows : StoreFollows f s s') : p.Known s' := by
  cases p with
  | credentials => trivial
  | candidates vendorIds => trivial
  | vendors rest => exact fun work hwork => (h work hwork).follows hfollows
  | working work rest => exact ⟨h.1.follows hfollows, fun w hw => (h.2 w hw).follows hfollows⟩
  | writePush id push orderId work rest =>
      obtain ⟨⟨hpush, order, horder, hid, hcode⟩, hwork, hrest⟩ := h
      obtain ⟨order', horder', hid', hcode', -⟩ := hfollows.orders _ order horder
      exact ⟨⟨hpush.follows hfollows, order', horder', hid'.trans hid, hcode'.trans hcode⟩,
        hwork.follows hfollows, fun w hw => (hrest w hw).follows hfollows⟩
  | writeTracking number orderId work rest =>
      obtain ⟨⟨order, horder, hid, htracking⟩, hwork, hrest⟩ := h
      obtain ⟨order', horder', hid', -, htracking'⟩ := hfollows.orders _ order horder
      refine ⟨⟨order', horder', hid'.trans hid, ?_⟩, hwork.follows hfollows,
        fun w hw => (hrest w hw).follows hfollows⟩
      rw [htracking']
      exact htracking
  | ended => trivial

/-- The pushes of a vendor's work are those of its candidates. -/
lemma workKnown_of_vendorWork {candidates : List Candidate}
    (hcandidates : ∀ c ∈ candidates, c.allocation ∈ s.allocations) {work : VendorWork}
    (hwork : work ∈ vendorWork candidates) : WorkKnown s work := by
  intro c hc push hpush
  unfold vendorWork at hwork
  obtain ⟨vendorId, -, rfl⟩ := List.mem_map.mp hwork
  obtain ⟨hc, hvendor⟩ := List.mem_filter.mp hc
  have hmem := hcandidates c (List.mem_filter.mp hc).1
  obtain ⟨hsome, hmatches⟩ := Option.filter_eq_some_iff.mp hpush
  simp only [Bool.and_eq_true, decide_eq_true_eq] at hmatches
  refine ⟨c.allocation, hmem, rfl, push, hsome, rfl, ?_, rfl⟩
  exact hmatches.1.1.2.trans (beq_iff_eq.mp hvendor)

lemma deliveredByPush_eq_some {vendorId : Id} {push : OrderPush} {order : SopyoOrder}
    (h : deliveredByPush s vendorId push = some order) :
    order ∈ s.orders vendorId ∧ order.orderCode = push.orderCode := by
  unfold deliveredByPush at h
  simp only [Option.bind_eq_bind, Option.bind_eq_some_iff] at h
  obtain ⟨orderId, -, found, hfound, h⟩ := h
  split at h
  · rename_i hdelivered
    obtain rfl := Option.some.inj h
    exact ⟨mem_of_findRow hfound, hdelivered.1⟩
  · cases h

lemma deliveredByTracking_eq_some {vendorId : Id} {row : DeliveryAllocation} {number : String}
    {order : SopyoOrder} (h : deliveredByTracking s vendorId row number = some order) :
    order ∈ s.orders vendorId ∧ trim order.trackingNumber = number := by
  unfold deliveredByTracking at h
  split at h
  · rename_i found hfound
    split at h
    · obtain rfl := Option.some.inj h
      have hmem : found ∈ (s.orders vendorId).filter fun order =>
          trim order.trackingNumber == number := by
        rw [hfound]
        exact List.mem_singleton_self _
      obtain ⟨hmem, htracking⟩ := List.mem_filter.mp hmem
      exact ⟨hmem, beq_iff_eq.mp htracking⟩
    · cases h
  · cases h

lemma lookup_known {answer : PollAnswer} {work : VendorWork} {rest : List VendorWork}
    (hwork : WorkKnown s work) (hrest : ∀ w ∈ rest, WorkKnown s w) :
    (lookup answer s work rest).Known s := by
  obtain ⟨vendorId, pushes, groups⟩ := work
  unfold lookup
  cases pushes with
  | cons c pushes =>
      have hleft : WorkKnown s ⟨vendorId, pushes, groups⟩ :=
        fun c' hc' => hwork c' (List.mem_cons_of_mem _ hc')
      dsimp only
      split
      · rename_i push hpush
        split
        · rename_i order horder
          obtain ⟨hmem, hcode⟩ := deliveredByPush_eq_some horder
          exact ⟨⟨hwork c List.mem_cons_self push hpush, order, hmem, rfl, hcode⟩, hleft, hrest⟩
        · exact ⟨hleft, hrest⟩
      · exact ⟨hleft, hrest⟩
  | nil =>
      cases groups with
      | nil => exact hrest
      | cons group groups =>
          have hleft : WorkKnown s ⟨vendorId, [], groups⟩ :=
            fun c hc => (List.not_mem_nil hc).elim
          dsimp only
          split
          · split
            · rename_i order horder
              obtain ⟨hmem, htracking⟩ := deliveredByTracking_eq_some horder
              exact ⟨⟨order, hmem, rfl, htracking⟩, hleft, hrest⟩
            · exact ⟨hleft, hrest⟩
          · exact ⟨hleft, hrest⟩

/-- The next position relies on what the step read. -/
lemma run_known {p q : PollPosition} {answer : PollAnswer} (hknown : p.Known s)
    (h : p.run answer s = some (s', q)) : q.Known s := by
  unfold PollPosition.run at h
  split at h
  case h_1 =>
    split at h
    · obtain ⟨-, rfl⟩ := Prod.mk.inj (Option.some.inj h)
      split
      · trivial
      · trivial
    · obtain ⟨-, rfl⟩ := Prod.mk.inj (Option.some.inj h)
      trivial
  case h_2 =>
    split at h
    · obtain ⟨-, rfl⟩ := Prod.mk.inj (Option.some.inj h)
      intro work hwork
      refine workKnown_of_vendorWork (fun c hc => ?_) hwork
      obtain ⟨row, hrow, rfl⟩ := List.mem_map.mp hc
      exact (List.mem_filter.mp hrow).1
    · obtain ⟨-, rfl⟩ := Prod.mk.inj (Option.some.inj h)
      trivial
  case h_3 =>
    obtain ⟨-, rfl⟩ := Prod.mk.inj (Option.some.inj h)
    trivial
  case h_4 work rest =>
    have hrest : ∀ w ∈ rest, WorkKnown s w := fun w hw => hknown w (List.mem_cons_of_mem _ hw)
    split at h
    · obtain ⟨-, rfl⟩ := Prod.mk.inj (Option.some.inj h)
      exact ⟨hknown work List.mem_cons_self, hrest⟩
    · obtain ⟨-, rfl⟩ := Prod.mk.inj (Option.some.inj h)
      exact hrest
  case h_5 =>
    obtain ⟨-, rfl⟩ := Prod.mk.inj (Option.some.inj h)
    exact lookup_known hknown.1 hknown.2
  case h_6 | h_7 =>
    unfold PollPosition.commit at h
    split at h
    · obtain ⟨-, rfl⟩ := Prod.mk.inj (Option.some.inj h)
      exact hknown.2
    · obtain ⟨-, rfl⟩ := Prod.mk.inj (Option.some.inj h)
      exact hknown.2
  case h_8 => cases h

end Known

/-! ## Writes that count right -/

section Writes

variable {s s' : DeliveryStore}

/-- A canonical id has no white space. -/
lemma trim_of_canonical {id : String} (h : canonicalSopyoOrderId (some id) = some id) :
    trim id = id := by
  have hdecimal := (Option.filter_eq_some_iff.mp h).2
  simp only [Bool.and_eq_true] at hdecimal
  exact trim_eq_self (isSpace_of_isPositiveDecimal hdecimal.1.1)

lemma successfulPush_eq_some {row : DeliveryAllocation} {push : OrderPush}
    (h : successfulPush row = some push) : row.sopyoOrderPush = some push ∧
      push.assignedVendorId = row.assignedVendorId ∧ push.orderCode = row.id := by
  obtain ⟨hsome, hmatches⟩ := Option.filter_eq_some_iff.mp h
  simp only [Bool.and_eq_true, decide_eq_true_eq] at hmatches
  exact ⟨hsome, hmatches.1.1.2, hmatches.1.2⟩

/-- An allocation with a push of a vendor's work, found by it, belongs to the vendor. -/
lemma PushKnown.found {vendorId id : Id} {push currentPush : OrderPush} {row : DeliveryAllocation}
    (h : PushKnown s vendorId id push) (hkeyed : Keyed s) (hrow : s.allocation id = some row)
    (hpush : successfulPush row = some currentPush) (hid : currentPush.id = push.id) :
    row.assignedVendorId = vendorId ∧ push.orderCode = row.id := by
  obtain ⟨row', hmem, hid', p, hp, -, hvendor, hcode⟩ := h
  obtain rfl : row' = row :=
    hkeyed.ids.eq hmem (mem_of_findRow hrow) (hid'.trans (key_of_findRow hrow).symm)
  obtain ⟨hsome, hassigned, hcode'⟩ := successfulPush_eq_some hpush
  rw [hp] at hsome
  obtain rfl := Option.some.inj hsome
  exact ⟨hassigned.symm.trans hvendor, hcode.symm.trans hcode'⟩

/-- A record adds to what was observed only what the allocation proves. -/
lemma Recorded.observesProven {row : DeliveryAllocation} {source : VerifiedDeliveredSource}
    {through : Option String} (hrecorded : Recorded s s' row source through) (hkeyed : Keyed s)
    (hproven : Proven s row source.sourceReference) : ObservesProven s s' := by
  intro a' ha' reference hobserves
  have hfollows := hrecorded.follows hkeyed
  obtain ⟨a, ha, rfl⟩ := hfollows.observed ha' hobserves
  refine ⟨a, ha, ((hfollows.follows a ha).id).symm, ?_⟩
  rcases hrecorded.observes hkeyed ha hobserves with ⟨-, hold⟩ | ⟨rfl, rfl⟩
  · exact Or.inl hold
  · exact Or.inr hproven

/-- What a write by push records. -/
lemma DeliverySound.writesByPush (h : DeliverySound s) {id : Id} {push currentPush : OrderPush}
    {orderId : String} {work : VendorWork} {rest : List VendorWork} {row : DeliveryAllocation}
    (hknown : (PollPosition.writePush id push orderId work rest).Known s)
    (hright : (PollPosition.writePush id push orderId work rest).CountsRight s)
    (hfound : pushedAllocation s id push orderId = some (row, currentPush))
    (hrecorded : Recorded s s' row (.push currentPush.id orderId) none) :
    DeliverySound s' ∧ ObservesProven s s' := by
  obtain ⟨⟨hpushKnown, order, horder, horderId, hcode⟩, -⟩ := hknown
  obtain ⟨hrow, -, hpush, hid, hnames⟩ := pushedAllocation_eq_some hfound
  obtain ⟨hvendor, hcode'⟩ := hpushKnown.found h.toKeyed hrow hpush hid
  have hunclaimed := hright (by rw [hfound]; exact Option.some_ne_none _) order horder horderId
  have href : (VerifiedDeliveredSource.push currentPush.id orderId).sourceReference = orderId := by
    rw [← horderId]
    exact trim_of_canonical order.id_canonical
  have hrowId : row.id = id := key_of_findRow hrow
  constructor
  · refine h.recorded hrecorded ?_ ?_
    · rw [href, hrecorded.store]
      refine ⟨order, ?_, horderId, Or.inl ⟨hcode.trans hcode', rfl, currentPush, hpush, hnames⟩⟩
      change order ∈ s.orders row.assignedVendorId
      rw [hvendor]
      exact horder
    · intro b hb hne hsame hobserves
      rw [href] at hobserves
      obtain ⟨-, -, order', horder', horderId', hbasis⟩ := h.observed b hb orderId hobserves
      rw [hsame, hvendor] at horder'
      obtain rfl := (h.orderIds work.vendorId).eq horder' horder (horderId'.trans horderId.symm)
      rcases hbasis with ⟨hown, -⟩ | hthrough
      · -- the code of the order is that of its allocation
        exact hne (h.ids.eq hb hrecorded.mem ((hown.symm.trans hcode).trans hcode'))
      · refine hunclaimed b hb (hsame.trans hvendor) ?_ hthrough
        rw [← hrowId]
        exact fun heq => hne (h.ids.eq hb hrecorded.mem heq)
  · refine hrecorded.observesProven h.toKeyed ?_
    rw [href]
    exact Or.inl ⟨currentPush, hpush, hnames⟩

/-- What a write by tracking records. -/
lemma DeliverySound.writesByTracking (h : DeliverySound s) {number orderId : String}
    {work : VendorWork} {rest : List VendorWork} {row : DeliveryAllocation} {clientId : Id}
    (hknown : (PollPosition.writeTracking number orderId work rest).Known s)
    (hright : (PollPosition.writeTracking number orderId work rest).CountsRight s)
    (hfound : trackedAllocation s work.vendorId number orderId = some (row, clientId))
    (hrecorded : Recorded s s' row (.client clientId orderId) (some number)) :
    DeliverySound s' ∧ ObservesProven s s' := by
  obtain ⟨⟨order, horder, horderId, htracking⟩, -⟩ := hknown
  obtain ⟨hone, hmatches⟩ := trackedAllocation_eq_some hfound
  have hundisputed := hright (by rw [hfound]; exact Option.some_ne_none _)
  have hproven : row ∈ provenFor s work.vendorId number := by
    rw [hone]
    exact List.mem_singleton_self _
  have hrow := (List.mem_filter.mp hproven).2
  simp only [Bool.and_eq_true, beq_iff_eq] at hrow
  obtain ⟨⟨-, hvendor⟩, hlive⟩ := hrow
  have href : (VerifiedDeliveredSource.client clientId orderId).sourceReference = orderId := by
    rw [← horderId]
    exact trim_of_canonical order.id_canonical
  have hmem : order ∈ s.orders row.assignedVendorId := by
    rw [hvendor]
    exact horder
  constructor
  · refine h.recorded hrecorded ?_ ?_
    · rw [href, hrecorded.store]
      refine ⟨order, hmem, horderId, Or.inr ?_⟩
      rw [htracking]
      rfl
    · intro b hb hne hsame hobserves
      rw [href] at hobserves
      obtain ⟨-, hsopyo, order', horder', horderId', hbasis⟩ := h.observed b hb orderId hobserves
      rw [hsame, hvendor] at horder'
      obtain rfl := (h.orderIds work.vendorId).eq horder' horder (horderId'.trans horderId.symm)
      obtain ⟨-, hnumber, hpushes⟩ :=
        hundisputed b hb hsopyo (hsame.trans hvendor) hobserves.isSome
      rcases hbasis with ⟨-, hnone, push, hpush, hnames⟩ | hthrough
      · exact hpushes hnone push hpush hnames
      · rw [htracking] at hthrough
        exact hnumber hthrough
  · refine hrecorded.observesProven h.toKeyed ?_
    rw [href]
    refine Or.inr ⟨order, hmem, horderId, hmatches, fun b hb hsopyo hsame => ?_⟩
    rw [htracking]
    constructor
    · intro hnumber
      by_cases hnone : b.deliveredObservation = none
      · have hb' : b ∈ provenFor s work.vendorId number := by
          refine List.mem_filter.mpr ⟨hb, ?_⟩
          simp only [Bool.and_eq_true, beq_iff_eq, sopyoUnobserved, Option.isNone_iff_eq_none]
          exact ⟨⟨⟨hsopyo, hnone⟩, hsame.trans hvendor⟩, hnumber⟩
        rw [hone, List.mem_singleton] at hb'
        rw [hb']
      · exact ((hundisputed b hb hsopyo (hsame.trans hvendor) hnone).1 hnumber).elim
    · intro hid
      obtain rfl := h.ids.eq hb hrecorded.mem hid
      exact hlive

end Writes

/-! ## Runs -/

section Runs

variable {s s' : DeliveryStore}

/-- A step of a cycle keeps the rows, and with them what other cycles rely on. -/
lemma run_follows (hkeyed : Keyed s) {p q : PollPosition} {answer : PollAnswer}
    (h : p.run answer s = some (s', q)) : ∃ f, StoreFollows f s s' := by
  rcases run_writes hkeyed h with rfl | hwrites
  · exact ⟨_, .same hkeyed rfl rfl⟩
  · cases hwrites with
    | push _ hrecorded => exact ⟨_, hrecorded.follows hkeyed⟩
    | tracking _ hrecorded => exact ⟨_, hrecorded.follows hkeyed⟩

/-- A step of a cycle whose write counts right. -/
lemma DeliverySound.run (h : DeliverySound s) {p q : PollPosition} {answer : PollAnswer}
    (hknown : p.Known s) (hright : answer = .done → p.CountsRight s)
    (hrun : p.run answer s = some (s', q)) : DeliverySound s' ∧ ObservesProven s s' := by
  rcases run_writes h.toKeyed hrun with rfl | hwrites
  · exact ⟨h, fun a' ha' reference hobserves => ⟨a', ha', rfl, Or.inl hobserves⟩⟩
  · cases hwrites with
    | push hfound hrecorded => exact h.writesByPush hknown (hright rfl) hfound hrecorded
    | tracking hfound hrecorded => exact h.writesByTracking hknown (hright rfl) hfound hrecorded

lemma DeliveryStore.New.keyed (h : s.New) : Keyed s := ⟨h.allocations, h.orders⟩

lemma DeliveryStore.New.not_observes (h : s.New) {a : DeliveryAllocation} (ha : a ∈ s.allocations)
    {reference : String} : ¬Observes a reference := by
  rintro ⟨observation, hsome, -⟩
  rw [h.unobserved a ha] at hsome
  cases hsome

lemma DeliveryStore.New.sound (h : s.New) : DeliverySound s where
  toKeyed := h.keyed
  observed _ ha _ hobserves := (h.not_observes ha hobserves).elim
  one _ ha _ _ _ _ hobserves _ := (h.not_observes ha hobserves).elim

/-- Whatever happens, rows and orders are told apart by their ids. -/
lemma deliveryPolls_keyed :
    deliveryPolls.Sound DeliveryStore.New (fun _ _ => True) Keyed fun _ _ _ => True where
  init _ hnew := hnew.keyed
  start _ _ _ _ := trivial
  run _ _ _ _ _ _ hw _ _ hrun := by
    obtain ⟨_, hfollows⟩ := run_follows hw.1 hrun
    exact ⟨hfollows.keyed, trivial⟩
  interference _ _ _ _ _ _ _ _ _ _ _ _ _ _ := trivial
  outside _ _ _ hw _ hout := by
    obtain ⟨_, hfollows, -⟩ := outside_follows hw.1 hout
    exact ⟨hfollows.keyed, fun _ _ _ => trivial⟩

/-- Runs whose writes count right keep the invariant. -/
lemma deliveryPolls_sound :
    deliveryPolls.Sound DeliveryStore.New CountsRight DeliverySound fun _ s p => p.Known s where
  init _ hnew := hnew.sound
  start _ _ _ _ := trivial
  run w i answer p s q hw hp hok hrun := by
    have hknown := hw.2 i p hp
    have hright : answer = .done → p.CountsRight w.shared := by
      rintro rfl
      exact hok p hp
    obtain ⟨f, hfollows⟩ := run_follows hw.1.toKeyed hrun
    exact ⟨(hw.1.run hknown hright hrun).1, (run_known hknown hrun).follows hfollows⟩
  interference w _ _ _ _ _ hw _ _ hrun j r _ hr := by
    obtain ⟨f, hfollows⟩ := run_follows hw.1.toKeyed hrun
    exact (hw.2 j r hr).follows hfollows
  outside w _ _ hw _ hout := by
    obtain ⟨f, hfollows, hquiet⟩ := outside_follows hw.1.toKeyed hout
    exact ⟨hw.1.follows hfollows hquiet, fun j r hr => (hw.2 j r hr).follows hfollows⟩

/-- A step observes only what was proven. -/
lemma observesProven_step {w w' : DeliveryWorld} {m : DeliverySystemMove}
    (hw : deliveryPolls.Reaches DeliveryStore.New CountsRight w) (hok : CountsRight w m)
    (h : deliveryPolls.step m w = .ok w') : ObservesProven w.shared w'.shared := by
  obtain ⟨hsound, hknown⟩ := deliveryPolls_sound.holds hw
  rcases Program.step_shared h with hsame | ⟨i, answer, p, q, rfl, hp, hrun⟩ | ⟨e, -, hout⟩
  · rw [hsame]
    exact fun a' ha' reference hobserves => ⟨a', ha', rfl, Or.inl hobserves⟩
  · have hright : answer = .done → p.CountsRight w.shared := by
      rintro rfl
      exact hok p hp
    exact (hsound.run (hknown i p hp) hright hrun).2
  · obtain ⟨f, hfollows, hquiet⟩ := outside_follows hsound.toKeyed hout
    intro a' ha' reference hobserves
    obtain ⟨a, ha, rfl⟩ := hfollows.observed ha' hobserves
    exact ⟨a, ha, ((hfollows.follows a ha).id).symm, Or.inl (hquiet a ha reference hobserves)⟩

/-- A step keeps the observations. -/
lemma keepsObservations_step {w w' : DeliveryWorld} {m : DeliverySystemMove}
    (hw : deliveryPolls.Reaches DeliveryStore.New (fun _ _ => True) w)
    (h : deliveryPolls.step m w = .ok w') : KeepsObservations w.shared w'.shared := by
  have hkeyed := (deliveryPolls_keyed.holds hw).1
  rcases Program.step_shared h with hsame | ⟨i, answer, p, q, rfl, hp, hrun⟩ | ⟨e, -, hout⟩
  · rw [hsame]
    exact fun a ha observation hobs => ⟨a, ha, rfl, hobs⟩
  · obtain ⟨f, hfollows⟩ := run_follows hkeyed hrun
    exact hfollows.keepsObservations
  · obtain ⟨f, hfollows, -⟩ := outside_follows hkeyed hout
    exact hfollows.keepsObservations

end Runs

/-- **Observed deliveries.**  An observation never changes.  If every write of the run counted
right, an order proves at most one allocation of a vendor, and what the next such step observes was
proven. -/
theorem delivery_observed (w : DeliveryWorld) :
    (deliveryPolls.Reaches DeliveryStore.New (fun _ _ => True) w → ∀ m w',
      deliveryPolls.step m w = .ok w' → KeepsObservations w.shared w'.shared) ∧
    (deliveryPolls.Reaches DeliveryStore.New CountsRight w →
      OneAllocation w.shared ∧ ∀ m w', CountsRight w m → deliveryPolls.step m w = .ok w' →
        ObservesProven w.shared w'.shared) :=
  ⟨fun hw _ _ h => keepsObservations_step hw h,
    fun hw => ⟨(deliveryPolls_sound.holds hw).1.one,
      fun _ _ hok h => observesProven_step hw hok h⟩⟩

/-! ## A tracking number that is used again -/

section Sample

instance (s : DeliveryStore) (vendorId : Id) (number orderId : String) :
    Decidable (Undisputed s vendorId number orderId) := by
  unfold Undisputed
  refine @List.decidableBAll _ _ (fun b => ?_) s.allocations
  refine @instDecidableForall _ _ inferInstance (@instDecidableForall _ _ inferInstance ?_)
  refine @instDecidableForall _ _ inferInstance (@instDecidableAnd _ _ inferInstance ?_)
  exact @instDecidableAnd _ _ inferInstance (@instDecidableForall _ _ inferInstance inferInstance)

instance (s : DeliveryStore) (vendorId allocationId : Id) (orderId : String) :
    Decidable (Unclaimed s vendorId allocationId orderId) := by
  unfold Unclaimed
  infer_instance

instance (s : DeliveryStore) : DecidablePred (PollPosition.CountsRight s) := fun p => by
  unfold PollPosition.CountsRight
  split <;> infer_instance

instance (w : DeliveryWorld) : DecidablePred (CountsRight w) := fun m => by
  unfold CountsRight
  split <;> infer_instance

def sampleRow (id : Id) (trackingNumber : Option String) : DeliveryAllocation where
  id := id
  assignedVendorId := 1
  outboundMethodSnapshot := some .vendorIntegration
  outboundIntegrationProviderSnapshot := some .sopyo
  trackingNumber := trackingNumber
  carrier := none
  shippingStatus := "Shipped"
  sopyoOrderPush := none
  deliveredObservation := none
  observedThrough := none

def sampleClient : IntegrationClient where
  vendorIdentifier := 1
  providerCode := some .sopyo
  enabled := true
  revokedAt := none
  scopes := ["shipment:write"]

def sampleSopyoOrder : SopyoOrder where
  id := "700"
  orderCode := 9
  orderType := "SOPYOAPI"
  orderStatus := 6
  trackingNumber := "T"
  id_canonical := by decide

/-- Two allocations, of which the first was shipped under `T`. -/
def sampleDeliveryStore : DeliveryStore where
  allocations := [sampleRow 1 (some "T"), sampleRow 2 none]
  shipmentEvents := [⟨1, 3, 1, "T"⟩]
  client := fun id => if id = 3 then some sampleClient else none
  execution := fun _ => none
  credentials := [1]
  orders := fun vendorId => if vendorId = 1 then [sampleSopyoOrder] else []

/-- A cycle up to its first write. -/
def sampleCycle (i : ℕ) : List DeliverySystemMove :=
  [.start i (), .run i .done, .run i .done, .run i .done, .run i .done]

/-- The second allocation is shipped under `T`, too. -/
def sampleReuse : List DeliverySystemMove :=
  [.outside (.setTracking 2 (some "T") none), .outside (.addEvent ⟨2, 3, 1, "T"⟩)]

/-- The allocations that were observed through the order. -/
def observedIds (s : DeliveryStore) (reference : String) : List Id :=
  (s.allocations.filter fun row => row.deliveredObservation.any fun observation =>
    observation.outboundIntegrationProvider == some .sopyo &&
      observation.sourceReference == reference).map DeliveryAllocation.id

lemma mem_observedIds {s : DeliveryStore} {reference : String} {id : Id} :
    id ∈ observedIds s reference ↔ ∃ a ∈ s.allocations, Observes a reference ∧ a.id = id := by
  simp only [observedIds, List.mem_map, List.mem_filter, Option.any_eq_true, Bool.and_eq_true,
    beq_iff_eq, Observes, and_assoc]

lemma sampleDeliveryStore_new : sampleDeliveryStore.New where
  allocations := by decide
  orders vendorId := by
    change KeyUnique SopyoOrder.id (if vendorId = 1 then [sampleSopyoOrder] else [])
    split
    · exact List.nodup_singleton _
    · exact List.nodup_nil
  unobserved := by decide

/-- The witness: a cycle observes the first allocation. -/
theorem delivery_observed_sample : ∃ w w' : DeliveryWorld,
    observedIds w'.shared "700" = [1] ∧ KeepsObservations w.shared w'.shared ∧
      OneAllocation w'.shared ∧ ObservesProven w.shared w'.shared := by
  have hrun : Succeeds (runActions (guarded CountsRight () deliveryPolls.step) (sampleCycle 0)
      (World.init sampleDeliveryStore)) fun w =>
        CountsRight w (.run 0 .done) ∧ Succeeds (deliveryPolls.step (.run 0 .done) w) fun w' =>
          observedIds w'.shared "700" = [1] := by
    decide +kernel
  obtain ⟨w, hw, hok, hnext⟩ := succeeds_iff.mp hrun
  obtain ⟨w', hw', hids⟩ := succeeds_iff.mp hnext
  have hreach : deliveryPolls.Reaches DeliveryStore.New CountsRight w :=
    reachable_of_runGuarded (.start ⟨_, sampleDeliveryStore_new, rfl⟩) hw
  have hkeeps := (delivery_observed w).1 (hreach.mono fun _ _ _ => trivial) _ w' hw'
  obtain ⟨-, hproven⟩ := (delivery_observed w).2 hreach
  have hreach' : deliveryPolls.Reaches DeliveryStore.New CountsRight w' :=
    .step hreach ⟨_, hok, hw'⟩
  exact ⟨w, w', hids, hkeeps, ((delivery_observed w').2 hreach').1, hproven _ w' hok hw'⟩

/-- The number has been used before, and the order proves the second allocation as well. -/
theorem delivery_reused : ¬∀ w : DeliveryWorld,
    deliveryPolls.Reaches DeliveryStore.New (fun _ _ => True) w → OneAllocation w.shared := by
  intro hone
  have hrun : Succeeds (runActions deliveryPolls.step
      (sampleCycle 0 ++ [.run 0 .done] ++ sampleReuse ++ sampleCycle 1 ++ [.run 1 .done])
      (World.init sampleDeliveryStore)) fun w =>
        observedIds w.shared "700" = [1, 2] ∧
          ∀ row ∈ w.shared.allocations, row.assignedVendorId = 1 := by
    decide +kernel
  obtain ⟨w, hw, hids, hvendor⟩ := succeeds_iff.mp hrun
  have hreach : deliveryPolls.Reaches DeliveryStore.New (fun _ _ => True) w :=
    reachable_of_runActions (.start ⟨_, sampleDeliveryStore_new, rfl⟩) (fun _ _ _ => trivial) hw
  have hmem : ∀ id ∈ [1, 2], ∃ a ∈ w.shared.allocations, Observes a "700" ∧ a.id = id := by
    intro id hid
    rw [← hids] at hid
    exact mem_observedIds.mp hid
  obtain ⟨a, ha, hobserves, hid⟩ := hmem 1 (by simp)
  obtain ⟨b, hb, hobserves', hid'⟩ := hmem 2 (by simp)
  have hsame := hone w hreach a ha b hb ((hvendor a ha).trans (hvendor b hb).symm) "700" hobserves
    hobserves'
  rw [hid, hid'] at hsame
  exact absurd hsame (by decide)

end Sample

end VendorDashboard.SopyoDelivery

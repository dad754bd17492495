import VendorDashboard.Properties.CancellationAggregate
import VendorDashboard.Properties.CancellationWorkers

/-!
# An order is cancelled after its refunds

`processCustomerCancellationOrderCancel` looks at the item it was called for and at no other
item of the request.  Of a request with several items, the first one that is refunded therefore
cancels the order while the others are still to be refunded (`cancels_before_refund`); from then
on their classification finds the order cancelled.

In every run in which that part is started only for the last item of a request, the mutation is
sent after all items were refunded (`orderCancel_afterRefund`).
-/

namespace VendorDashboard.Orders

open Finance (Id Instant CustomerCancellationStatus)
open Table Transaction Run

/-- Refunded, whether or not the order's cancellation is confirmed. -/
def IsRefunded (s : CustomerCancellationStatus) : Prop :=
  s = .refundedAwaitingOrderCancel ∨ s = .approved

instance : DecidablePred IsRefunded := fun _ => inferInstanceAs (Decidable (_ ∨ _))

lemma Advances.isRefunded {s t : CustomerCancellationStatus} (h : Advances s t)
    (hs : IsRefunded s) : IsRefunded t := by
  cases h with
  | approve => simp [IsRefunded] at hs
  | reconcile => exact .inl rfl
  | finalize => exact .inr rfl

lemma IsRefunded.reflTransGen {s t : CustomerCancellationStatus} (hs : IsRefunded s)
    (h : Relation.ReflTransGen Advances s t) : IsRefunded t := by
  induction h with
  | refl => exact hs
  | tail _ hadvance ih => exact hadvance.isRefunded ih

namespace CancellationDb

variable {db db' : CancellationDb}

/-- Every item of the item's request has been refunded. -/
def RequestRefunded (db : CancellationDb) (itemId : Id) : Prop :=
  ∃ item ∈ db.customerCancellationRequestItem, item.id = itemId ∧
    ∀ j ∈ db.itemsOf item.requestId, IsRefunded j.status

instance (db : CancellationDb) (itemId : Id) : Decidable (db.RequestRefunded itemId) :=
  inferInstanceAs (Decidable (∃ item ∈ db.customerCancellationRequestItem, item.id = itemId ∧
    ∀ j ∈ db.itemsOf item.requestId, IsRefunded j.status))

/-- Another item of the item's request is still to be refunded. -/
def hasUnrefundedSibling (db : CancellationDb) (itemId : Id) : Bool :=
  (db.findItem itemId).any fun item => (db.itemsOf item.requestId).any fun j =>
    decide (j.id ≠ itemId) &&
      (decide (j.status = .pending) || decide (j.status = .approvedForRefund))

lemma RequestRefunded.moved {itemId : Id} (h : db.RequestRefunded itemId)
    (hm : db.ItemsMoved db') : db'.RequestRefunded itemId := by
  obtain ⟨item, hitem, hid, hall⟩ := h
  obtain ⟨-, f, hf, hscope, hstatus⟩ := hm
  refine ⟨f item, hf ▸ List.mem_map_of_mem hitem, (hscope item).1.trans hid, fun j' hj' => ?_⟩
  rw [mem_itemsOf, hf, (hscope item).2.1] at hj'
  obtain ⟨hj', hrequest⟩ := hj'
  obtain ⟨j, hj, rfl⟩ := List.mem_map.mp hj'
  have hj_of : j ∈ db.itemsOf item.requestId :=
    mem_itemsOf.mpr ⟨hj, (hscope j).2.1.symm.trans hrequest⟩
  exact (hall j hj_of).reflTransGen (hstatus j hj)

lemma RequestRefunded.created {itemId : Id} (h : db.RequestRefunded itemId)
    (hc : db.ItemsCreated db') : db'.RequestRefunded itemId := by
  obtain ⟨item, hitem, hid, hall⟩ := h
  obtain ⟨requestId, new, hnew, hfresh, hitems⟩ := hc
  refine ⟨item, hitems ▸ List.mem_append_left _ hitem, hid, fun j hj => ?_⟩
  rw [mem_itemsOf, hitems, List.mem_append] at hj
  obtain ⟨hold | hj, hrequest⟩ := hj
  · exact hall j (mem_itemsOf.mpr ⟨hold, hrequest⟩)
  · exact absurd (hrequest.symm.trans (hnew j hj).1) (hfresh item hitem)

/-- **The check of the order's cancellation**, when it runs for the last item. -/
lemma requestRefunded_of_startOrderCancel (h : db.ItemsWellFormed) {itemId : Id}
    {existingJobId : Option Id} (hstart : db.startOrderCancel itemId = .proceed existingJobId)
    (hlast : db.hasUnrefundedSibling itemId = false) : db.RequestRefunded itemId := by
  unfold startOrderCancel at hstart
  cases hfind : db.findItem itemId with
  | none => simp [hfind] at hstart
  | some item =>
      obtain ⟨hitem, hid⟩ := mem_of_findItem hfind
      simp only [hfind] at hstart
      split at hstart
      next => simp only [reduceCtorEq] at hstart
      next =>
        split at hstart
        next => simp only [reduceCtorEq] at hstart
        next hstatus =>
          rw [ne_eq, not_not] at hstatus
          refine ⟨item, hitem, hid, fun j hj => ?_⟩
          obtain ⟨hjmem, -⟩ := mem_itemsOf.mp hj
          by_cases hji : j.id = itemId
          · rw [h.itemIds.eq hjmem hitem (hji.trans hid.symm)]
            exact .inl hstatus
          · simp only [hasUnrefundedSibling, hfind, Option.any_some, List.any_eq_false] at hlast
            have hopen := hlast j hj
            simp only [ne_eq, hji, not_false_eq_true, decide_true, Bool.true_and,
              Bool.or_eq_true, decide_eq_true_eq, not_or] at hopen
            rcases h.onPath j hjmem with hs | hs | hs | hs
            · exact absurd hs hopen.1
            · exact absurd hs hopen.2
            · exact .inl hs
            · exact .inr hs

end CancellationDb

/-! ## Runs -/

/-- Where the mutation is sent, and the read just before it. -/
def JobStep.IsBeforeCancel : JobStep → Prop
  | .readBeforeCancel _ => True
  | .sendOrderCancel => True
  | _ => False

/-- A job comes to these positions from its own check, and without a write. -/
lemma JobNext.of_isBeforeCancel {w w' : World} {itemId : Id} {position next : JobStep}
    (h : JobNext w itemId position w' next) (hnext : next.IsBeforeCancel) :
    w' = w ∧ (position.IsBeforeCancel ∨ position = .startOrderCancel ∧
      ∃ existingJobId, w.db.startOrderCancel itemId = .proceed existingJobId) := by
  cases h with
  | proceed existingJobId hstart => exact ⟨rfl, .inr ⟨rfl, existingJobId, hstart⟩⟩
  | send => exact ⟨rfl, .inl trivial⟩
  | confirm _ _ _ hconfirm => cases next <;> first | exact hnext.elim | exact hconfirm.elim
  | _ => exact absurd hnext id

/-- The item whose order cancellation the worker's next step starts. -/
def Worker.startsOrderCancel : Worker → Option Id
  | .job itemId .startOrderCancel => some itemId
  | _ => none

/-- The order's cancellation is started only for the last item of a request. -/
def StartsLast (w : World) : Action → Prop
  | .run i _ => ∀ itemId ∈ (w.worker i).bind Worker.startsOrderCancel,
      w.db.hasUnrefundedSibling itemId = false
  | _ => True

/-- What a worker on its way to the mutation knows. -/
def CancelsRefunded (w : World) : Prop :=
  ∀ i itemId position, w.worker i = some (.job itemId position) → position.IsBeforeCancel →
    w.db.RequestRefunded itemId

/-- **The step lemma.** -/
lemma CancelsRefunded.step {a : Action} {w w' : World} (h : CancelsRefunded w)
    (hrows : w.db.ItemsWellFormed) (hok : StartsLast w a) (hstep : step a w = .ok w') :
    CancelsRefunded w' := by
  intro k itemId position hworker hposition
  have hkeep : w.db.RequestRefunded itemId → w'.db.RequestRefunded itemId := by
    intro hrefunded
    obtain hmoved | hcreated := (itemsWellFormed_step hrows hstep).2
    · exact hrefunded.moved hmoved
    · exact hrefunded.created hcreated
  apply hkeep
  cases step_workerStep hstep k with
  | same hsame => exact h k itemId position (hsame ▸ hworker) hposition
  | stopped hstopped => simp [hstopped] at hworker
  | started worker hstart hworker' =>
      rw [hworker'] at hworker
      obtain rfl := Option.some.inj hworker
      cases position <;> first | exact hposition.elim | exact hstart.elim
  | job itemId' position' reply next w₁ ha hworker₀ hrun hw' =>
      rw [hw', World.putWorker_worker_self, Option.map_eq_some_iff] at hworker
      obtain ⟨next', rfl, heq⟩ := hworker
      obtain ⟨rfl, rfl⟩ := Worker.job.inj heq
      obtain ⟨-, hbefore | ⟨rfl, existingJobId, hstart⟩⟩ :=
        (World.runJob_next hrun).of_isBeforeCancel hposition
      · exact h k _ _ hworker₀ hbefore
      · subst ha
        have hlast : w.db.hasUnrefundedSibling itemId' = false :=
          hok itemId' (by simp [hworker₀, Worker.startsOrderCancel])
        exact CancellationDb.requestRefunded_of_startOrderCancel hrows hstart hlast
  | execution input position' reply next w₁ ha hworker₀ hrun hw' =>
      rw [hw', World.putWorker_worker_self, Option.map_eq_some_iff] at hworker
      obtain ⟨_, -, heq⟩ := hworker
      simp only [reduceCtorEq] at heq

/-- **The order is cancelled after its refunds**, in every run in which the cancellation is
started only for the last item of a request. -/
theorem orderCancel_afterRefund {w : World} (h : ReachableWith StartsLast w) {i itemId : Id}
    (hsend : w.worker i = some (.job itemId .sendOrderCancel)) : w.db.RequestRefunded itemId := by
  have hinv : w.db.ItemsWellFormed ∧ CancelsRefunded w := by
    refine Reachable.invariant (P := fun w => w.db.ItemsWellFormed ∧ CancelsRefunded w) ?_ ?_ h
    · rintro _ rfl
      exact ⟨CancellationDb.ItemsWellFormed.empty, fun i _ _ hi => by simp [World.init] at hi⟩
    · rintro v v' - ⟨hrows, hv⟩ ⟨a, hok, hstep⟩
      exact ⟨(itemsWellFormed_step hrows hstep).1, hv.step hrows hok hstep⟩
  exact hinv.2 i itemId _ hsend trivial

instance (w : World) : (a : Action) → Decidable (StartsLast w a)
  | .run i _ => inferInstanceAs (Decidable (∀ itemId ∈ (w.worker i).bind Worker.startsOrderCancel,
      w.db.hasUnrefundedSibling itemId = false))
  | .recordOrder .. | .updateAllocation _ | .merchantRefund .. | .cancelShopifyOrder _
  | .executeSubmission .. | .createRequest .. | .approveItem .. | .ingestRefund .. | .startJob ..
  | .startPreview .. | .startExecution .. | .stop _ => .isTrue trivial

namespace TwoLines

/-- The request that an attempt sends for a line. -/
def submission (attemptId lineItemId allocationId : Id) : CreateShopifyRefundInput where
  orderId := 100
  refundLineItems := [(lineItemId, 1)]
  locationId := some 5
  transactions := [⟨some 7, some 1000, some "bank"⟩]
  shipping := none
  idempotencyKey := ⟨allocationId, attemptId⟩

/-- The refund of a line, executed under the key of its attempt. -/
def refund (id lineItemId allocationId attemptId : Id) : StoreRefund :=
  ⟨id, some ⟨allocationId, attemptId⟩, [(lineItemId, 1)], 0, 1000⟩

/-- The worker of an executed refund records it and finds it among the refunds of the order. -/
def confirm (i refundId : Id) (refunds : List StoreRefund) : List Action :=
  let o := { shopOrder with refunds := refunds }
  [.run i (.refundCreate (some refundId) false), .run i tick, .run i tick,
    .run i (.evidence (some o.canonicalRefunds) (some o.orderSnapshot)), .run i tick]

/-- The worker goes on to the cancellation of the order. -/
def cancelOrder (i : Id) (refunds : List StoreRefund) : List Action :=
  [.run i tick, .run i (.orderSnapshot (some { shopOrder with refunds := refunds }.orderSnapshot))]

def firstRefund : List StoreRefund := [refund 900 111 21 51]

def bothRefunds : List StoreRefund := [refund 900 111 21 51, refund 901 112 22 52]

/-- The first item is refunded. -/
def firstItemRefunded : List Action :=
  [recordOrder, createRequest] ++ approve 1 41 51 [] ++
  [.run 1 tick, .executeSubmission (submission 51 111 21) 900 1000] ++ confirm 1 900 firstRefund

/-- The second item is refunded after it. -/
def secondItemRefunded : List Action :=
  firstItemRefunded ++ [.stop 1] ++ approve 2 42 52 firstRefund ++
  [.run 2 tick, .executeSubmission (submission 52 112 22) 901 1000] ++ confirm 2 901 bothRefunds

end TwoLines

/-- The item for whose order the worker's next step sends the mutation. -/
def Worker.sendsOrderCancel : Worker → Option Id
  | .job itemId .sendOrderCancel => some itemId
  | _ => none

lemma Worker.sendsOrderCancel_eq_some {worker : Option Worker} {itemId : Id}
    (h : worker.bind Worker.sendsOrderCancel = some itemId) :
    worker = some (.job itemId .sendOrderCancel) := by
  obtain ⟨v, rfl, hv⟩ := Option.bind_eq_some_iff.mp h
  unfold sendsOrderCancel at hv
  split at hv
  · rw [Option.some.inj hv]
  · simp only [reduceCtorEq] at hv

/-- The first item of two is refunded and its worker sends the cancellation of the order, while
the second item is still pending. -/
theorem cancels_before_refund : ∃ w, ReachableWith (fun _ _ => True) w ∧
    w.worker 1 = some (.job 41 .sendOrderCancel) ∧
    (w.db.findItem 42).map (·.status) = some .pending ∧ ¬w.db.RequestRefunded 41 := by
  have hrun : Succeeds (runActions step
      (TwoLines.firstItemRefunded ++ TwoLines.cancelOrder 1 TwoLines.firstRefund) World.init)
      fun w => (w.worker 1).bind Worker.sendsOrderCancel = some 41 ∧
        (w.db.findItem 42).map (·.status) = some .pending ∧ ¬w.db.RequestRefunded 41 := by
    decide +kernel
  obtain ⟨w, hw, hsend, hpending, hnot⟩ := succeeds_iff.mp hrun
  exact ⟨w, reachable_of_runActions (.start rfl) (fun _ _ _ => trivial) hw,
    Worker.sendsOrderCancel_eq_some hsend, hpending, hnot⟩

theorem orderCancel_afterRefund_secondItem : ∃ w,
    runActions (guarded StartsLast "" step)
      (TwoLines.secondItemRefunded ++ TwoLines.cancelOrder 2 TwoLines.bothRefunds) World.init =
        .ok w ∧
      w.worker 2 = some (.job 42 .sendOrderCancel) ∧ w.db.RequestRefunded 42 := by
  have hrun : Succeeds (runActions (guarded StartsLast "" step)
      (TwoLines.secondItemRefunded ++ TwoLines.cancelOrder 2 TwoLines.bothRefunds) World.init)
      fun w => (w.worker 2).bind Worker.sendsOrderCancel = some 42 := by
    decide +kernel
  obtain ⟨w, hw, hsend⟩ := succeeds_iff.mp hrun
  have hsend' := Worker.sendsOrderCancel_eq_some hsend
  exact ⟨w, hw, hsend', orderCancel_afterRefund (reachable_of_runGuarded (.start rfl) hw) hsend'⟩

end VendorDashboard.Orders

import VendorDashboard.Properties.RefundAttemptOwnership

/-!
# What a step may do to a refund attempt

`OwnInvariant` says that whatever an attempt carries is its own refund, and that every worker on
its way to write a refund holds the attempt's own.  Under it, `OwnMove` bounds what a step may do
to an attempt, and `OwnReleases` what it may do to a claim; this module proves both for the
writes of the workers and for the ingestion of a refund.

The ingestion writes a refund into every open attempt of an allocation whatever it carries, so
for it the bound needs `OwnRefunds`: the ingested refund is the own refund of the attempts that
it touches.
-/

namespace VendorDashboard.Orders

open Finance (Id Instant)
open Table Transaction Run

namespace World

variable {w w' : World}

/-! ## What the workers hold -/

/-- What a job holds about its attempt and its refund, by its position. -/
def JobOk (w : World) (itemId : Id) : JobStep → Prop
  | .fetchEvidence _ _ lineItemId quantity => w.ItemAt itemId lineItemId quantity
  | .commitReconciliation evidence => evidence ≠ [] ∧ evidence.Nodup ∧
      ∃ lineItemId quantity, w.ItemAt itemId lineItemId quantity ∧
        ∀ r ∈ evidence, w.TakesLine r lineItemId 1
  | .reclassify attemptId => w.JobAttempt itemId attemptId
  | .submit attemptId context => w.JobAttempt itemId attemptId ∧
      w.ItemAt itemId context.sourceLineItemId context.requestedQuantity
  | .awaitRefund attemptId key => w.JobAttempt itemId attemptId ∧ key.attemptId = attemptId
  | .recordSubmission attemptId refundId => w.JobAttempt itemId attemptId ∧
      ∀ r ∈ refundId, ∃ key, key.attemptId = attemptId ∧ w.ExecutedUnder r key
  | _ => True

def ExecutionOk (w : World) (input : CreatePreviewAttemptInput) : ExecutionStep → Prop
  | .writePreview existing | .writeLock existing =>
      ∀ id ∈ existing, w.ManualAttempt input.vendorAllocationId id
  | .prepare attemptId | .createClaim attemptId | .submit attemptId =>
      w.ManualAttempt input.vendorAllocationId attemptId
  | .awaitRefund attemptId key => w.ManualAttempt input.vendorAllocationId attemptId ∧
      key = ⟨input.vendorAllocationId, attemptId⟩
  | .recordSubmission attemptId refundId => w.ManualAttempt input.vendorAllocationId attemptId ∧
      ∀ r ∈ refundId, w.ExecutedUnder r ⟨input.vendorAllocationId, attemptId⟩
  | _ => True

def WorkerOk (w : World) : Worker → Prop
  | .job itemId position => w.JobOk itemId position
  | .execution input position => w.ExecutionOk input position

lemma WorkerOk.mono (hg : Grows w w') {worker : Worker} (h : w.WorkerOk worker) :
    w'.WorkerOk worker := by
  cases worker with
  | job itemId position =>
      cases position with
      | fetchEvidence _ _ _ _ => exact ItemAt.mono hg h
      | commitReconciliation _ =>
          obtain ⟨hne, hnodup, lineItemId, quantity, hat, htakes⟩ := h
          exact ⟨hne, hnodup, lineItemId, quantity, hat.mono hg, fun r hr => (htakes r hr).mono hg⟩
      | reclassify _ => exact JobAttempt.mono hg h
      | submit _ _ => exact ⟨h.1.mono hg, h.2.mono hg⟩
      | awaitRefund _ _ => exact ⟨h.1.mono hg, h.2⟩
      | recordSubmission _ _ =>
          refine ⟨h.1.mono hg, fun r hr => ?_⟩
          obtain ⟨key, hkey, hexecuted⟩ := h.2 r hr
          exact ⟨key, hkey, hexecuted.mono hg⟩
      | _ => trivial
  | execution input position =>
      cases position with
      | writePreview _ => exact fun id hid => (h id hid).mono hg
      | writeLock _ => exact fun id hid => (h id hid).mono hg
      | prepare _ => exact ManualAttempt.mono hg h
      | createClaim _ => exact ManualAttempt.mono hg h
      | submit _ => exact ManualAttempt.mono hg h
      | awaitRefund _ _ => exact ⟨h.1.mono hg, h.2⟩
      | recordSubmission _ _ => exact ⟨h.1.mono hg, fun r hr => (h.2 r hr).mono hg⟩
      | _ => trivial

lemma workerOk_of_isStart {worker : Worker} (h : worker.IsStart) : w.WorkerOk worker := by
  cases worker with
  | job itemId position => cases position <;> first | exact trivial | exact h.elim
  | execution input position => cases position <;> first | exact trivial | exact h.elim

/-! ## The invariant -/

structure OwnInvariant (w : World) : Prop where
  rows : w.db.ItemsWellFormed
  store : StoreMatches w
  wholeLines : WholeLines w
  attemptIds : KeyUnique OutboundShopifyRefundAttempt.id w.db.outboundShopifyRefundAttempt
  notPreviewed : ∀ x ∈ w.db.outboundShopifyRefundAttempt,
    x.customerCancellationRequestItemId.isSome → x.status ≠ .previewed
  claimIds : KeyUnique OrderShippingRefundClaim.id w.db.orderShippingRefundClaim
  submissions : ∀ s ∈ w.submissions, w.KeyFor s.idempotencyKey s.refundLineItems
  refunds : ∀ s ∈ w.refunds, ∀ key, s.idempotencyKey = some key → w.KeyFor key s.lines
  workers : ∀ k worker, w.worker k = some worker → w.WorkerOk worker
  carried : ∀ x ∈ w.db.outboundShopifyRefundAttempt, ∀ r, x.shopifyRefundId = some r →
    w.Explains r x

lemma OwnInvariant.init : OwnInvariant World.init where
  rows := CancellationDb.ItemsWellFormed.empty
  store := StoreMatches.init
  wholeLines := by simp [WholeLines, World.init, CancellationDb.empty]
  attemptIds := by simp [World.init, CancellationDb.empty, KeyUnique]
  notPreviewed := by simp [World.init, CancellationDb.empty]
  claimIds := by simp [World.init, CancellationDb.empty, KeyUnique]
  submissions := by simp [World.init]
  refunds := by simp [World.init, World.refunds]
  workers := by simp [World.init]
  carried := by simp [World.init, CancellationDb.empty]

/-! ## Through which refunds a step acts -/

/-- The refunds on whose evidence a step acts. -/
def evidenceOf (w : World) : Action → List Id
  | .ingestRefund event _ => [event.sourceShopifyRefundId]
  | .run i _ =>
      match w.worker i with
      | some (.job _ (.commitReconciliation evidence)) => evidence
      | _ => []
  | _ => []

/-- What a step may do to an attempt. -/
structure OwnMove (w : World) (a : Action) (x x' : OutboundShopifyRefundAttempt) : Prop where
  owner : SameOwner x x'
  carried : ∀ r, x'.shopifyRefundId = some r → w.Explains r x
  resolved : x.status ≠ .resolved → x'.status = .resolved → ∀ r,
    x.shopifyRefundId = some r ∨ x'.shopifyRefundId = some r → w.evidenceOf a = [r]
  previewed : x.customerCancellationRequestItemId.isSome → x'.status = .previewed →
    x.status = .previewed

/-- A new attempt. -/
structure IsNew (x : OutboundShopifyRefundAttempt) : Prop where
  carried : x.shopifyRefundId = none
  resolved : x.status ≠ .resolved
  previewed : x.customerCancellationRequestItemId.isSome → x.status ≠ .previewed

/-- What a step may do to the attempts. -/
def OwnMoves (w : World) (a : Action) (db' : CancellationDb) : Prop :=
  ∃ f new, db'.outboundShopifyRefundAttempt = w.db.outboundShopifyRefundAttempt.map f ++ new ∧
    (∀ x ∈ w.db.outboundShopifyRefundAttempt, OwnMove w a x (f x)) ∧ (∀ x ∈ new, IsNew x) ∧
    KeyUnique OutboundShopifyRefundAttempt.id db'.outboundShopifyRefundAttempt

variable {a : Action} {x x' : OutboundShopifyRefundAttempt}

/-- A change that gives the attempt no refund and does not resolve it. -/
lemma OwnInvariant.move_plain (h : OwnInvariant w) (hx : x ∈ w.db.outboundShopifyRefundAttempt)
    (howner : SameOwner x x')
    (hrefund : x'.shopifyRefundId = x.shopifyRefundId ∨ x'.shopifyRefundId = none)
    (hresolved : x'.status = .resolved → x.status = .resolved)
    (hpreviewed : x.customerCancellationRequestItemId.isSome → x'.status = .previewed →
      x.status = .previewed) : OwnMove w a x x' where
  owner := howner
  carried r hr := by
    rcases hrefund with hsame | hnone
    · exact h.carried x hx r (hsame ▸ hr)
    · simp [hnone] at hr
  resolved hne heq := absurd (hresolved heq) hne
  previewed := hpreviewed

lemma OwnInvariant.move_refl (h : OwnInvariant w) (hx : x ∈ w.db.outboundShopifyRefundAttempt) :
    OwnMove w a x x :=
  h.move_plain hx (.refl x) (.inl rfl) id fun _ => id

lemma OwnInvariant.moves_same (h : OwnInvariant w) {db' : CancellationDb}
    (hsame : db'.outboundShopifyRefundAttempt = w.db.outboundShopifyRefundAttempt) :
    OwnMoves w a db' :=
  ⟨id, [], by simp [hsame], fun _ hx => h.move_refl hx, by simp, hsame ▸ h.attemptIds⟩

/-- An update of the attempts that satisfy a condition. -/
lemma OwnInvariant.moves_update (h : OwnInvariant w) {db' : CancellationDb}
    {p : OutboundShopifyRefundAttempt → Bool}
    {f : OutboundShopifyRefundAttempt → OutboundShopifyRefundAttempt}
    (heq : db'.outboundShopifyRefundAttempt = updateWhere p f w.db.outboundShopifyRefundAttempt)
    (hid : ∀ x, (f x).id = x.id)
    (hmove : ∀ x ∈ w.db.outboundShopifyRefundAttempt, p x = true → OwnMove w a x (f x)) :
    OwnMoves w a db' := by
  refine ⟨fun x => if p x then f x else x, [], by rw [heq, List.append_nil]; rfl,
    fun x hx => ?_, by simp, ?_⟩
  · simp only
    split
    next hp => exact hmove x hx hp
    next => exact h.move_refl hx
  · rw [heq]
    exact h.attemptIds.updateWhere hid

lemma OwnInvariant.moves_insert (h : OwnInvariant w) {db db' : CancellationDb}
    {attempt : OutboundShopifyRefundAttempt}
    (hsame : db.outboundShopifyRefundAttempt = w.db.outboundShopifyRefundAttempt)
    (hnew : IsNew attempt) (hinsert : db.insertAttempt attempt = .ok db') : OwnMoves w a db' := by
  simp only [CancellationDb.insertAttempt, bind_eq_ok, require_eq_ok, insertRows_eq_ok,
    pure_eq_ok] at hinsert
  obtain ⟨-, -, attempts, ⟨hunique, rfl⟩, rfl⟩ := hinsert
  rw [hsame] at hunique
  refine ⟨id, [attempt], by simp [hsame], fun x hx => h.move_refl hx, ?_, ?_⟩
  · intro x hx
    rw [List.mem_singleton.mp hx]
    exact hnew
  · simp only [hsame]
    exact hunique

/-! ## The writes of the workers -/

/-- An attempt of an item that was submitted under a key owns the refund executed under it. -/
lemma OwnInvariant.explains_of_job (h : OwnInvariant w) {itemId attemptId refundId : Id}
    {key : ShopifyRefundIdempotencyKey} (hattempt : w.JobAttempt itemId attemptId)
    (hkey : key.attemptId = attemptId) (hexecuted : w.ExecutedUnder refundId key)
    (hx : x ∈ w.db.outboundShopifyRefundAttempt) (hid : x.id = attemptId) :
    w.Explains refundId x := by
  obtain ⟨s, hs, rfl, hskey⟩ := hexecuted
  obtain ⟨y, hy, hyid, hlines⟩ := h.refunds s hs key hskey
  obtain ⟨z, hz, hzid, hitem⟩ := hattempt
  obtain rfl := h.attemptIds.eq hx hy (hid.trans (hyid.trans hkey).symm)
  obtain rfl := h.attemptIds.eq hx hz (hid.trans hzid.symm)
  obtain ⟨lineItemId, quantity, ⟨i, hi, hiid, rfl, hline⟩, htakes⟩ := hlines itemId hitem
  unfold Explains
  rw [hitem]
  exact ⟨i, hi, hiid, lineItemId, hline, s, hs, rfl, htakes⟩

lemma OwnInvariant.manual_item (h : OwnInvariant w) {vendorAllocationId attemptId : Id}
    (hattempt : w.ManualAttempt vendorAllocationId attemptId)
    (hx : x ∈ w.db.outboundShopifyRefundAttempt) (hid : x.id = attemptId) :
    x.customerCancellationRequestItemId = none ∧ x.vendorAllocationId = vendorAllocationId := by
  obtain ⟨y, hy, hyid, hallocation, hitem⟩ := hattempt
  obtain rfl := h.attemptIds.eq hx hy (hid.trans hyid.symm)
  exact ⟨hitem, hallocation⟩

lemma OwnInvariant.explains_of_manual (h : OwnInvariant w) {vendorAllocationId attemptId : Id}
    (hattempt : w.ManualAttempt vendorAllocationId attemptId) {refundId : Id}
    (hexecuted : w.ExecutedUnder refundId ⟨vendorAllocationId, attemptId⟩)
    (hx : x ∈ w.db.outboundShopifyRefundAttempt) (hid : x.id = attemptId) :
    w.Explains refundId x := by
  obtain ⟨hitem, hallocation⟩ := h.manual_item hattempt hx hid
  unfold Explains
  rw [hitem, hallocation, hid]
  exact hexecuted

lemma eq_singleton_of_forall {l : List Id} {r : Id} (hne : l ≠ []) (hnodup : l.Nodup)
    (hall : ∀ e ∈ l, e = r) : l = [r] := by
  obtain ⟨e, rest, rfl⟩ := List.exists_cons_of_ne_nil hne
  obtain ⟨hnotin, -⟩ := List.nodup_cons.mp hnodup
  obtain rfl := hall e List.mem_cons_self
  cases rest with
  | nil => rfl
  | cons e' rest =>
      have heq := hall e' (List.mem_cons_of_mem _ List.mem_cons_self)
      exact absurd (heq ▸ List.mem_cons_self) hnotin

/-- **The reconciliation acts through the attempt's own refund.** -/
lemma OwnInvariant.evidence_eq (h : OwnInvariant w) {itemId : Id} {evidence : List Id}
    (hok : w.JobOk itemId (.commitReconciliation evidence))
    (hx : x ∈ w.db.outboundShopifyRefundAttempt)
    (hitem : x.customerCancellationRequestItemId = some itemId) {r : Id}
    (hr : x.shopifyRefundId = some r) : evidence = [r] := by
  obtain ⟨hne, hnodup, lineItemId, quantity, ⟨i, hi, hid, -, hline⟩, htakes⟩ := hok
  have hexplains := h.carried x hx r hr
  unfold Explains at hexplains
  rw [hitem] at hexplains
  obtain ⟨i', hi', hid', lineItemId', hline', htakes'⟩ := hexplains
  obtain rfl := h.rows.itemIds.eq hi hi' (hid.trans hid'.symm)
  obtain rfl := Option.some.inj (hline.symm.trans hline')
  exact eq_singleton_of_forall hne hnodup fun e he =>
    eq_of_takesLine h.store h.wholeLines hi hline htakes' Nat.one_pos (htakes e he)

open CancellationDb

lemma autoApproveItem_attempts {db : CancellationDb} (item : CustomerCancellationRequestItem) :
    (db.autoApproveItem item).outboundShopifyRefundAttempt = db.outboundShopifyRefundAttempt := by
  unfold autoApproveItem
  split <;> rfl

lemma OwnInvariant.moves_approve (h : OwnInvariant w) {itemId attemptId : Id} {now : Instant}
    {context : CustomerCancellationAutoRefundCleanContext} {attempt : OutboundShopifyRefundAttempt}
    {db' : CancellationDb}
    (happrove : w.db.approveAndCreateAttempt itemId context attemptId now = .ok (db', attempt)) :
    OwnMoves w a db' := by
  simp only [approveAndCreateAttempt, bind_eq_ok, getOrThrow_eq_ok, require_eq_ok] at happrove
  obtain ⟨item, -, allocation, -, _, -, _, -, _, -, _, -, happrove⟩ := happrove
  split at happrove
  next =>
    simp only [pure_eq_ok, Prod.mk.injEq] at happrove
    obtain ⟨rfl, -⟩ := happrove
    exact h.moves_same (autoApproveItem_attempts item)
  next =>
    simp only [bind_eq_ok, pure_eq_ok, Prod.mk.injEq] at happrove
    obtain ⟨inserted, hinsert, rfl, -⟩ := happrove
    refine h.moves_insert (autoApproveItem_attempts item) ⟨rfl, ?_, fun _ => ?_⟩ hinsert
    · simp [cancellationAttempt]
    · simp [cancellationAttempt]

lemma OwnInvariant.moves_job (h : OwnInvariant w) {itemId : Id} {position : JobStep}
    (hok : w.JobOk itemId position)
    (hevidence : ∀ evidence, position = .commitReconciliation evidence →
      w.evidenceOf a = evidence) {db' : CancellationDb}
    (hwrite : JobWrite w.db itemId position db') : OwnMoves w a db' := by
  cases hwrite with
  | none => exact h.moves_same rfl
  | reconcile evidence now =>
      unfold reconcileItem
      split
      · exact h.moves_same rfl
      · simp only
        split
        · exact h.moves_same rfl
        · refine h.moves_update rfl (fun _ => rfl) fun x hx hp => ?_
          rw [decide_eq_true_eq] at hp
          refine ⟨⟨rfl, rfl, rfl⟩, fun r hr => h.carried x hx r hr, fun _ _ r hr => ?_, by simp⟩
          rw [hevidence evidence rfl]
          exact h.evidence_eq hok hx hp (or_self_iff.mp hr)
  | approve _ _ _ _ _ happrove => exact h.moves_approve happrove
  | fail attemptId =>
      exact h.moves_update rfl (fun _ => rfl) fun x hx _ =>
        h.move_plain hx ⟨rfl, rfl, rfl⟩ (.inl rfl) (by simp) (by simp)
  | record attemptId refundId =>
      refine h.moves_update rfl (fun _ => rfl) fun x hx hp => ?_
      rw [decide_eq_true_eq] at hp
      refine ⟨⟨rfl, rfl, rfl⟩, fun r hr => ?_, by simp, by simp⟩
      obtain ⟨key, hkey, hexecuted⟩ := hok.2 r hr
      exact h.explains_of_job hok.1 hkey hexecuted hx hp
  | persist _ jobId =>
      unfold persistOrderCancelEvidence
      split
      · exact h.moves_same rfl
      · exact h.moves_update rfl (fun _ => rfl) fun x hx _ =>
          h.move_plain hx ⟨rfl, rfl, rfl⟩ (.inl rfl) id fun _ => id
  | finalize now =>
      refine h.moves_same ?_
      unfold finalizeApproved
      split
      · rfl
      · simp only
        split <;> rfl

lemma OwnInvariant.moves_execution (h : OwnInvariant w) {input : CreatePreviewAttemptInput}
    {position : ExecutionStep} (hok : w.ExecutionOk input position) {db' : CancellationDb}
    (hwrite : ExecutionWrite w.db input position db') : OwnMoves w a db' := by
  cases hwrite with
  | none => exact h.moves_same rfl
  | preview existing newId now _ hwrite =>
      cases existing with
      | none => exact h.moves_insert rfl ⟨rfl, by simp [newAttempt], by simp [newAttempt]⟩ hwrite
      | some id =>
          obtain rfl := Except.ok.inj hwrite
          refine h.moves_update rfl (fun _ => rfl) fun x hx hp => ?_
          rw [decide_eq_true_eq] at hp
          refine h.move_plain hx ⟨rfl, rfl, rfl⟩ (.inl rfl) (by simp) fun hitem => ?_
          rw [(h.manual_item (hok id rfl) hx hp).1] at hitem
          simp at hitem
  | lock existing newId now _ hwrite =>
      cases existing with
      | none => exact h.moves_insert rfl ⟨rfl, by simp [newAttempt], by simp [newAttempt]⟩ hwrite
      | some id =>
          obtain rfl := Except.ok.inj hwrite
          exact h.moves_update rfl (fun _ => rfl) fun x hx _ =>
            h.move_plain hx ⟨rfl, rfl, rfl⟩ (.inr rfl) (by simp) (by simp)
  | claim attemptId claimId now _ outcome hclaim =>
      refine h.moves_same ?_
      obtain rfl | ⟨_, -, -, rfl⟩ := createShippingClaim_ok hclaim <;> rfl
  | fail attemptId response =>
      exact h.moves_update rfl (fun _ => rfl) fun x hx _ =>
        h.move_plain hx ⟨rfl, rfl, rfl⟩ (.inl rfl) (by simp) (by simp)
  | record attemptId refundId check =>
      refine h.moves_update rfl (fun _ => rfl) fun x hx hp => ?_
      rw [decide_eq_true_eq] at hp
      refine ⟨⟨rfl, rfl, rfl⟩, fun r hr => ?_, by simp, by simp⟩
      exact h.explains_of_manual hok.1 (hok.2 r hr) hx hp
  | review f => exact h.moves_same rfl

end World

/-! ## The condition -/

namespace CancellationDb

/-- The attempt has an active claim. -/
def hasActiveClaim (db : CancellationDb) (x : OutboundShopifyRefundAttempt) : Bool :=
  db.orderShippingRefundClaim.any fun c =>
    decide (c.ownerAttemptId = x.id) && decide (c.status = .active)

/-- The ingestion of the refund may write the attempt, or release its claim. -/
def touches (db : CancellationDb) (event : RefundEvent) (x : OutboundShopifyRefundAttempt) : Bool :=
  if event.refundLineItems.isEmpty then
    decide (x.status = .resolved) && db.hasActiveClaim x &&
      db.outboundShopifyRefundAttempt.any fun y =>
        decide (y.shopifyRefundId = some event.sourceShopifyRefundId) &&
          decide (y.vendorAllocationId = x.vendorAllocationId)
  else
    decide (x.vendorAllocationId ∈ event.acceptedAllocationIds) &&
      (decide (x.status = .previewed) || decide (x.status = .shopifyActionPending) ||
        (decide (x.status = .resolved) && db.hasActiveClaim x))

end CancellationDb

/-- The allocation for which the worker's next step looks for an active attempt. -/
def Worker.looksForAttempt : Worker → Option Id
  | .execution input .readActiveAttempt => some input.vendorAllocationId
  | _ => none

/-- An ingested refund is the own refund of the attempts that it touches, and an administrator
does not take over the attempt of a cancellation item. -/
def OwnRefunds (w : World) : Action → Prop
  | .ingestRefund event _ => ∀ x ∈ w.db.outboundShopifyRefundAttempt,
      w.db.touches event x = true → w.Explains event.sourceShopifyRefundId x
  | .run i _ => ∀ vendorAllocationId ∈ (w.worker i).bind Worker.looksForAttempt,
      ∀ x ∈ w.db.findActiveOutboundShopifyRefundAttemptForAllocation vendorAllocationId,
        x.customerCancellationRequestItemId = none
  | _ => True

namespace World

variable {w w' : World} {a : Action} {x x' x'' : OutboundShopifyRefundAttempt}

/-! ## The ingestion of a refund -/

/-- What the ingestion of a refund does to an attempt. -/
structure IngestMove (w : World) (refundId : Id) (x x' : OutboundShopifyRefundAttempt) : Prop where
  owner : SameOwner x x'
  change : (x'.shopifyRefundId = x.shopifyRefundId ∧ x'.status = x.status) ∨
    (w.Explains refundId x ∧ x'.shopifyRefundId = some refundId ∧
      (x'.status = x.status ∨ x'.status = .resolved))

lemma IngestMove.refl (refundId : Id) (x : OutboundShopifyRefundAttempt) :
    IngestMove w refundId x x :=
  ⟨.refl x, .inl ⟨rfl, rfl⟩⟩

/-- A write of the refund after the moves so far. -/
lemma IngestMove.write {refundId : Id} (h : IngestMove w refundId x x')
    (hexplains : w.Explains refundId x) (howner : SameOwner x' x'')
    (hrefund : x''.shopifyRefundId = some refundId)
    (hstatus : x''.status = x'.status ∨ x''.status = .resolved) : IngestMove w refundId x x'' := by
  refine ⟨h.owner.trans howner, .inr ⟨hexplains, hrefund, ?_⟩⟩
  rcases hstatus with hsame | hresolved
  · rcases h.change with ⟨-, hx⟩ | ⟨-, -, hx⟩
    · exact .inl (hsame.trans hx)
    · exact hx.imp hsame.trans hsame.trans
  · exact .inr hresolved

/-- What the ingestion of a refund does to a claim: it is released with its own refund. -/
structure ReleaseMove (w : World) (refundId : Id) (c c' : OrderShippingRefundClaim) : Prop where
  id : c'.id = c.id
  owner : c'.ownerAttemptId = c.ownerAttemptId
  change : c'.status = c.status ∨ (c'.status = .released ∧
    ∃ x ∈ w.db.outboundShopifyRefundAttempt, x.id = c.ownerAttemptId ∧ w.Explains refundId x)

/-- The attempts and claims in the course of an ingestion. -/
structure Ingesting (w : World) (refundId : Id) (db : CancellationDb) : Prop where
  attempts : ∃ f, db.outboundShopifyRefundAttempt = w.db.outboundShopifyRefundAttempt.map f ∧
    ∀ x ∈ w.db.outboundShopifyRefundAttempt, IngestMove w refundId x (f x)
  claims : ∃ g, db.orderShippingRefundClaim = w.db.orderShippingRefundClaim.map g ∧
    ∀ c ∈ w.db.orderShippingRefundClaim, ReleaseMove w refundId c (g c)

namespace Ingesting

variable {refundId : Id} {db db' : CancellationDb}

lemma refl (w : World) (refundId : Id) : Ingesting w refundId w.db where
  attempts := ⟨fun x => x, by simp, fun x _ => .refl refundId x⟩
  claims := ⟨fun x => x, by simp, fun c _ => ⟨rfl, rfl, .inl rfl⟩⟩

lemma congr (h : Ingesting w refundId db)
    (hattempts : db'.outboundShopifyRefundAttempt = db.outboundShopifyRefundAttempt)
    (hclaims : db'.orderShippingRefundClaim = db.orderShippingRefundClaim) :
    Ingesting w refundId db' :=
  ⟨hattempts ▸ h.attempts, hclaims ▸ h.claims⟩

/-- A row of an attempt comes from its row before the ingestion. -/
lemma of_mem (h : Ingesting w refundId db) (hx' : x' ∈ db.outboundShopifyRefundAttempt) :
    ∃ x ∈ w.db.outboundShopifyRefundAttempt, IngestMove w refundId x x' := by
  obtain ⟨f, hf, hmove⟩ := h.attempts
  rw [hf] at hx'
  obtain ⟨x, hx, rfl⟩ := List.mem_map.mp hx'
  exact ⟨x, hx, hmove x hx⟩

/-- An update that writes the refund into attempts that own it. -/
lemma update (h : Ingesting w refundId db) {p : OutboundShopifyRefundAttempt → Bool}
    {u : OutboundShopifyRefundAttempt → OutboundShopifyRefundAttempt}
    (hattempts : db'.outboundShopifyRefundAttempt = updateWhere p u db.outboundShopifyRefundAttempt)
    (hclaims : db'.orderShippingRefundClaim = db.orderShippingRefundClaim)
    (hwrite : ∀ x ∈ w.db.outboundShopifyRefundAttempt, ∀ x', IngestMove w refundId x x' →
      p x' = true → w.Explains refundId x ∧ SameOwner x' (u x') ∧
        (u x').shopifyRefundId = some refundId ∧
        ((u x').status = x'.status ∨ (u x').status = .resolved)) : Ingesting w refundId db' := by
  obtain ⟨f, hf, hmove⟩ := h.attempts
  refine ⟨⟨fun x => if p (f x) then u (f x) else f x, ?_, fun x hx => ?_⟩, hclaims ▸ h.claims⟩
  · rw [hattempts, hf]
    unfold updateWhere
    rw [List.map_map]
    rfl
  · simp only
    split
    next hp =>
      obtain ⟨hexplains, howner, hrefund, hstatus⟩ := hwrite x hx (f x) (hmove x hx) hp
      exact (hmove x hx).write hexplains howner hrefund hstatus
    next => exact hmove x hx

/-- A released claim was active, and its owner is a resolved attempt of the allocation. -/
lemma exists_release (db : CancellationDb) (vendorAllocationId : Id) : ∃ u,
    (db.releaseResolvedOrderShippingRefundClaimsForAllocation
      vendorAllocationId).orderShippingRefundClaim = db.orderShippingRefundClaim.map u ∧
    ∀ c, u c = c ∨ ((u c).id = c.id ∧ (u c).ownerAttemptId = c.ownerAttemptId ∧
      (u c).status = .released ∧ c.status = .active ∧
      ∃ x ∈ db.outboundShopifyRefundAttempt, x.id = c.ownerAttemptId ∧
        x.vendorAllocationId = vendorAllocationId ∧ x.status = .resolved) := by
  refine ⟨_, rfl, fun c => ?_⟩
  simp only
  split
  next hp =>
    simp only [Bool.and_eq_true, decide_eq_true_eq] at hp
    obtain ⟨⟨hactive, -⟩, hattempt⟩ := hp
    obtain ⟨x, hfind, hx⟩ := (Option.any_eq_true _ _).mp hattempt
    simp only [Bool.and_eq_true, decide_eq_true_eq] at hx
    exact .inr ⟨rfl, rfl, rfl, hactive, x, mem_of_findRow hfind, key_of_findRow hfind, hx⟩
  next => exact .inl rfl

/-- The release of the claims of the allocation's resolved attempts. -/
lemma release (h : Ingesting w refundId db) {vendorAllocationId : Id}
    (hown : ∀ x ∈ w.db.outboundShopifyRefundAttempt, x.vendorAllocationId = vendorAllocationId →
      x.status = .resolved → w.db.hasActiveClaim x = true → w.Explains refundId x) :
    Ingesting w refundId
      (db.releaseResolvedOrderShippingRefundClaimsForAllocation vendorAllocationId) := by
  obtain ⟨g, hg, hmove⟩ := h.claims
  obtain ⟨u, hu, hrelease⟩ := exists_release db vendorAllocationId
  refine ⟨h.attempts, ⟨fun c => u (g c), ?_, fun c hc => ?_⟩⟩
  · rw [hu, hg, List.map_map]
    rfl
  obtain ⟨hid, howner, hchange⟩ := hmove c hc
  obtain hsame | ⟨hid', howner', hreleased, hactive, x', hx', hxid, hallocation, hresolved⟩ :=
    hrelease (g c)
  · simp only [hsame]
    exact hmove c hc
  refine ⟨hid'.trans hid, howner'.trans howner, .inr ⟨hreleased, ?_⟩⟩
  have hcactive : c.status = .active := by
    rcases hchange with hsame | ⟨hreleased, -⟩
    · exact hsame ▸ hactive
    · rw [hreleased] at hactive
      simp only [reduceCtorEq] at hactive
  obtain ⟨x, hx, hxowner, hxchange⟩ := h.of_mem hx'
  have hxclaim : x.id = c.ownerAttemptId := hxowner.1.symm.trans (hxid.trans howner)
  refine ⟨x, hx, hxclaim, ?_⟩
  rcases hxchange with ⟨-, hstatus⟩ | ⟨hexplains, -⟩
  · refine hown x hx (hxowner.2.1.symm.trans hallocation) (hstatus.symm.trans hresolved) ?_
    unfold CancellationDb.hasActiveClaim
    rw [List.any_eq_true]
    exact ⟨c, hc, by simp [hxclaim, hcactive]⟩
  · exact hexplains

/-- The attempts of one accepted group. -/
lemma acceptRefundGroup (h : Ingesting w refundId db) (before : CancellationDb)
    {event : RefundEvent} (hevent : event.sourceShopifyRefundId = refundId)
    {vendorAllocationId : Id}
    (hopen : ∀ x ∈ w.db.outboundShopifyRefundAttempt, x.vendorAllocationId = vendorAllocationId →
      x.status = .previewed ∨ x.status = .shopifyActionPending → w.Explains refundId x)
    (hclaim : ∀ x ∈ w.db.outboundShopifyRefundAttempt, x.vendorAllocationId = vendorAllocationId →
      x.status = .resolved → w.db.hasActiveClaim x = true → w.Explains refundId x) :
    Ingesting w refundId (db.acceptRefundGroup before event vendorAllocationId) := by
  -- an open attempt of the allocation was open before the ingestion, or owns the refund
  have hown : ∀ x ∈ w.db.outboundShopifyRefundAttempt, ∀ x', IngestMove w refundId x x' →
      x'.vendorAllocationId = vendorAllocationId →
      x'.status = .previewed ∨ x'.status = .shopifyActionPending → w.Explains refundId x := by
    intro x hx x' hmove hallocation hstatus
    rcases hmove.change with ⟨-, hsame⟩ | ⟨hexplains, -⟩
    · exact hopen x hx (hmove.owner.2.1.symm.trans hallocation) (hsame ▸ hstatus)
    · exact hexplains
  have hrecorded : Ingesting w refundId (db.recordRefund vendorAllocationId
      event.sourceShopifyRefundId event.refundLineItems) := h.congr rfl rfl
  unfold CancellationDb.acceptRefundGroup
    CancellationDb.resolveCancelRefundReviewAfterRefundIngestion
  split
  · refine hrecorded.update rfl rfl fun x hx x' hmove hp => ?_
    rw [Bool.and_eq_true, decide_eq_true_eq, decide_eq_true_eq] at hp
    exact ⟨hown x hx x' hmove hp.1 (.inr hp.2), ⟨rfl, rfl, rfl⟩, congrArg some hevent, .inl rfl⟩
  · refine release ?_ hclaim
    refine Ingesting.update (p := fun x =>
      decide (x.vendorAllocationId = vendorAllocationId) &&
        (decide (x.status = .previewed) || decide (x.status = .shopifyActionPending)))
      (?_ : Ingesting w refundId _) rfl rfl fun x hx x' hmove hp => ?_
    · split
      · exact hrecorded.congr rfl rfl
      · exact hrecorded
    · simp only [Bool.and_eq_true, Bool.or_eq_true, decide_eq_true_eq] at hp
      exact ⟨hown x hx x' hmove hp.1 hp.2, ⟨rfl, rfl, rfl⟩, congrArg some hevent, .inr rfl⟩

lemma foldl_acceptRefundGroup (h : Ingesting w refundId db) (before : CancellationDb)
    {event : RefundEvent} (hevent : event.sourceShopifyRefundId = refundId) {ids : List Id}
    (hopen : ∀ x ∈ w.db.outboundShopifyRefundAttempt, x.vendorAllocationId ∈ ids →
      x.status = .previewed ∨ x.status = .shopifyActionPending → w.Explains refundId x)
    (hclaim : ∀ x ∈ w.db.outboundShopifyRefundAttempt, x.vendorAllocationId ∈ ids →
      x.status = .resolved → w.db.hasActiveClaim x = true → w.Explains refundId x) :
    Ingesting w refundId (ids.foldl (fun acc a => acc.acceptRefundGroup before event a) db) := by
  induction ids generalizing db with
  | nil => exact h
  | cons a ids ih =>
      rw [List.foldl_cons]
      refine ih (h.acceptRefundGroup before hevent ?_ ?_) ?_ ?_
      · exact fun x hx heq => hopen x hx (heq ▸ List.mem_cons_self)
      · exact fun x hx heq => hclaim x hx (heq ▸ List.mem_cons_self)
      · exact fun x hx hmem => hopen x hx (List.mem_cons_of_mem _ hmem)
      · exact fun x hx hmem => hclaim x hx (List.mem_cons_of_mem _ hmem)

/-- The attempts of the items that the refund covers. -/
lemma foldl_applyRefundToItem (h : Ingesting w refundId db)
    (siblings : Id → List CustomerCancellationRequestItem) (now : Instant)
    {items : List CustomerCancellationRequestItem}
    (hown : ∀ i ∈ items, ∀ x ∈ w.db.outboundShopifyRefundAttempt,
      x.customerCancellationRequestItemId = some i.id → w.Explains refundId x) :
    Ingesting w refundId (items.foldl (fun acc i =>
      acc.applyRefundToItem (siblings i.requestId) refundId i now) db) := by
  induction items generalizing db with
  | nil => exact h
  | cons i items ih =>
      rw [List.foldl_cons]
      refine ih ?_ fun j hj => hown j (List.mem_cons_of_mem _ hj)
      refine h.update rfl rfl fun x hx x' hmove hp => ?_
      rw [decide_eq_true_eq] at hp
      exact ⟨hown i List.mem_cons_self x hx (hmove.owner.2.2.symm.trans hp), ⟨rfl, rfl, rfl⟩, rfl,
        .inr rfl⟩

end Ingesting

/-- The refund of a shipping-only webhook is the own one of the attempt it resolves. -/
lemma OwnInvariant.ingesting_shippingOnly (h : OwnInvariant w) {event : RefundEvent}
    {target : Option Id} {db' : CancellationDb}
    (hclaim : ∀ y ∈ w.db.outboundShopifyRefundAttempt,
      y.shopifyRefundId = some event.sourceShopifyRefundId →
      ∀ x ∈ w.db.outboundShopifyRefundAttempt, x.vendorAllocationId = y.vendorAllocationId →
      x.status = .resolved → w.db.hasActiveClaim x = true →
      w.Explains event.sourceShopifyRefundId x)
    (hreconcile : w.db.reconcileVerifiedShippingOnlyRefund event.sourceShopifyOrderId
      event.sourceShopifyRefundId target = .ok db') :
    Ingesting w event.sourceShopifyRefundId db' := by
  simp only [CancellationDb.reconcileVerifiedShippingOnlyRefund, bind_eq_ok, require_eq_ok,
    getOrThrow_eq_ok] at hreconcile
  obtain ⟨_, -, claim, hhead, attempt, hfind, allocation, -, _, -, hreconcile⟩ := hreconcile
  split at hreconcile
  next => exact (pure_eq_ok.mp hreconcile) ▸ .refl w _
  next =>
    split at hreconcile
    next => exact (pure_eq_ok.mp hreconcile) ▸ .refl w _
    next =>
      simp only [bind_eq_ok, require_eq_ok, pure_eq_ok] at hreconcile
      obtain ⟨_, -, rfl⟩ := hreconcile
      -- the matching claim's attempt carries the refund
      have hmem := List.mem_of_head? hhead
      have hattempt : attempt ∈ w.db.outboundShopifyRefundAttempt := mem_of_findRow hfind
      have hcarries : attempt.shopifyRefundId = some event.sourceShopifyRefundId := by
        obtain ⟨-, hclaim⟩ := List.mem_filter.mp hmem
        simp only [hfind, Option.any_some, Bool.and_eq_true, decide_eq_true_eq] at hclaim
        exact hclaim.2.2
      refine Ingesting.release ?_ (hclaim attempt hattempt hcarries)
      have hresolved : Ingesting w event.sourceShopifyRefundId
          (w.db.updateAttempt attempt.id fun a => { a with status := .resolved }) := by
        refine (Ingesting.refl w _).update rfl rfl fun x hx x' hmove hp => ?_
        rw [decide_eq_true_eq] at hp
        obtain rfl := h.attemptIds.eq hx hattempt (hmove.owner.1.symm.trans hp)
        refine ⟨h.carried x hx _ hcarries, ⟨rfl, rfl, rfl⟩, ?_, .inr rfl⟩
        rcases hmove.change with ⟨hsame, -⟩ | ⟨-, hrefund, -⟩
        · exact hsame.trans hcarries
        · exact hrefund
      split
      · exact hresolved.congr rfl rfl
      · exact hresolved

/-- **The ingestion of a refund** writes it into attempts that own it, and releases their claims. -/
lemma OwnInvariant.ingesting (h : OwnInvariant w) {event : RefundEvent} {now : Instant}
    {db' : CancellationDb} (hok : OwnRefunds w (.ingestRefund event now))
    {s : StoreRefund} (hs : s ∈ w.refunds) (hid : s.id = event.sourceShopifyRefundId)
    (hlines : s.lines = event.refundLineItems)
    (hingest : w.db.ingestShopifyRefundWebhook event now = .ok db') :
    Ingesting w event.sourceShopifyRefundId db' := by
  simp only [OwnRefunds, CancellationDb.touches] at hok
  simp only [CancellationDb.ingestShopifyRefundWebhook, bind_eq_ok, require_eq_ok] at hingest
  obtain ⟨_, -, hingest⟩ := hingest
  split at hingest
  next hempty =>
    simp only [bind_eq_ok, require_eq_ok] at hingest
    obtain ⟨_, -, hingest⟩ := hingest
    refine h.ingesting_shippingOnly (fun y hy hcarries x hx hallocation hresolved hactive => ?_)
      hingest
    refine hok x hx ?_
    rw [if_pos hempty]
    simp only [hresolved, hactive, decide_true, Bool.true_and, List.any_eq_true, Bool.and_eq_true,
      decide_eq_true_eq]
    exact ⟨y, hy, hcarries, hallocation.symm⟩
  next hnonempty =>
    simp only [bind_eq_ok, require_eq_ok, pure_eq_ok] at hingest
    obtain ⟨_, -, hdb'⟩ := hingest
    have haccepted : Ingesting w event.sourceShopifyRefundId (event.acceptedAllocationIds.foldl
        (fun acc a => acc.acceptRefundGroup w.db event a) w.db) :=
      (Ingesting.refl w event.sourceShopifyRefundId).foldl_acceptRefundGroup w.db rfl
      (fun x hx hmem hopen => hok x hx (by
        rw [if_neg hnonempty]
        simp only [hmem, decide_true, Bool.true_and, Bool.or_eq_true, decide_eq_true_eq]
        exact .inl hopen))
      (fun x hx hmem hresolved hactive => hok x hx (by
        rw [if_neg hnonempty]
        simp [hmem, hresolved, hactive]))
    have hitems := @CancellationDb.foldl_acceptRefundGroup_sameItems w.db w.db event
      event.acceptedAllocationIds
    have horders := @CancellationDb.foldl_acceptRefundGroup_orders w.db w.db event
      event.acceptedAllocationIds
    generalize event.acceptedAllocationIds.foldl
      (fun acc a => acc.acceptRefundGroup w.db event a) w.db = accepted at *
    split at hdb'
    next =>
      subst hdb'
      refine haccepted.foldl_applyRefundToItem _ now fun i hi x hx hitem => ?_
      obtain ⟨hi, hcovers⟩ := List.mem_filter.mp hi
      obtain ⟨hi, -⟩ := List.mem_filter.mp hi
      rw [CancellationDb.refundCoversItem, Bool.and_eq_true] at hcovers
      obtain ⟨lineItemId, hline, hquantity⟩ := (Option.any_eq_true _ _).mp hcovers.2
      rw [decide_eq_true_eq] at hquantity
      unfold Explains
      rw [hitem]
      refine ⟨i, hitems.items ▸ hi, rfl, lineItemId, ?_, s, hs, hid, ?_⟩
      · rw [CancellationDb.sourceLineItemIdOf, horders] at hline
        exact hline
      · rw [hlines]
        exact hquantity.ge
    next => exact hdb' ▸ haccepted

/-! ## All steps -/

open CancellationDb

/-- What a step may do to the claims. -/
def OwnReleases (w : World) (a : Action) (db' : CancellationDb) : Prop :=
  ∃ g new, db'.orderShippingRefundClaim = w.db.orderShippingRefundClaim.map g ++ new ∧
    (∀ c ∈ w.db.orderShippingRefundClaim, (g c).id = c.id ∧
      (g c).ownerAttemptId = c.ownerAttemptId ∧
      (c.status ≠ .released → (g c).status = .released →
        ∀ x ∈ w.db.outboundShopifyRefundAttempt, x.id = c.ownerAttemptId → ∀ r,
          w.Explains r x → w.evidenceOf a = [r])) ∧
    (∀ c ∈ new, c.status = .active) ∧
    KeyUnique OrderShippingRefundClaim.id db'.orderShippingRefundClaim

lemma OwnInvariant.releases_same (h : OwnInvariant w) {db' : CancellationDb}
    (hsame : db'.orderShippingRefundClaim = w.db.orderShippingRefundClaim) :
    OwnReleases w a db' :=
  ⟨id, [], by simp [hsame], fun _ _ => ⟨rfl, rfl, fun hne heq => absurd heq hne⟩, by simp,
    hsame ▸ h.claimIds⟩

lemma OwnInvariant.releases_execution (h : OwnInvariant w) {input : CreatePreviewAttemptInput}
    {position : ExecutionStep} {db' : CancellationDb}
    (hwrite : ExecutionWrite w.db input position db') : OwnReleases w a db' := by
  cases hwrite with
  | none => exact h.releases_same rfl
  | preview _ _ _ _ hwrite => exact h.releases_same (writePreview_sameOrders hwrite).claims
  | lock _ _ _ _ hwrite => exact h.releases_same (writeExecution_sameOrders hwrite).claims
  | claim _ _ _ _ _ hclaim =>
      obtain rfl | ⟨claim, hactive, hunique, rfl⟩ := createShippingClaim_ok hclaim
      · exact h.releases_same rfl
      · refine ⟨id, [claim], by simp, ?_, ?_, hunique⟩
        · exact fun _ _ => ⟨rfl, rfl, fun hne heq => absurd heq hne⟩
        · intro c hc
          rw [List.mem_singleton.mp hc]
          exact hactive
  | fail => exact h.releases_same rfl
  | record => exact h.releases_same rfl
  | review => exact h.releases_same rfl

lemma OwnInvariant.eq (h : OwnInvariant w) {refundId refundId' : Id}
    (hx : w.Explains refundId x) (hx' : w.Explains refundId' x) : refundId' = refundId :=
  hx.eq h.store h.wholeLines h.rows hx'

/-- The moves of an ingestion are within the bound. -/
lemma Ingesting.ownMoves {event : RefundEvent} {now : Instant} {db' : CancellationDb}
    (h : Ingesting w event.sourceShopifyRefundId db') (hinv : OwnInvariant w) :
    OwnMoves w (.ingestRefund event now) db' := by
  obtain ⟨f, hf, hmove⟩ := h.attempts
  have hids : db'.outboundShopifyRefundAttempt.map (·.id) =
      w.db.outboundShopifyRefundAttempt.map (·.id) := by
    rw [hf, List.map_map]
    exact List.map_congr_left fun x hx => (hmove x hx).owner.1
  refine ⟨f, [], by rw [hf, List.append_nil], fun x hx => ?_, by simp, ?_⟩
  · obtain ⟨howner, ⟨hrefund, hstatus⟩ | ⟨hexplains, hrefund, hstatus⟩⟩ := hmove x hx
    · exact hinv.move_plain hx howner (.inl hrefund) (hstatus ▸ id) fun _ => hstatus ▸ id
    · refine ⟨howner, fun r hr => ?_, fun _ _ r hr => ?_, fun _ hpreviewed => ?_⟩
      · obtain rfl := Option.some.inj (hrefund.symm.trans hr)
        exact hexplains
      · refine congrArg (fun r => [r]) ?_
        rcases hr with hbefore | hafter
        · exact hinv.eq (hinv.carried x hx r hbefore) hexplains
        · exact Option.some.inj (hrefund.symm.trans hafter)
      · rcases hstatus with hsame | hresolved
        · exact hsame ▸ hpreviewed
        · rw [hresolved] at hpreviewed
          simp only [reduceCtorEq] at hpreviewed
  · unfold KeyUnique
    rw [hids]
    exact hinv.attemptIds

lemma Ingesting.ownReleases {event : RefundEvent} {now : Instant} {db' : CancellationDb}
    (h : Ingesting w event.sourceShopifyRefundId db') (hinv : OwnInvariant w) :
    OwnReleases w (.ingestRefund event now) db' := by
  obtain ⟨g, hg, hmove⟩ := h.claims
  have hids : db'.orderShippingRefundClaim.map (·.id) =
      w.db.orderShippingRefundClaim.map (·.id) := by
    rw [hg, List.map_map]
    exact List.map_congr_left fun c hc => (hmove c hc).id
  refine ⟨g, [], by rw [hg, List.append_nil], fun c hc => ?_, by simp, ?_⟩
  · obtain ⟨hid, howner, hchange⟩ := hmove c hc
    refine ⟨hid, howner, fun hne hreleased x hx hxc r hr => ?_⟩
    rcases hchange with hsame | ⟨-, y, hy, hyc, hexplains⟩
    · exact absurd (hsame ▸ hreleased) hne
    · obtain rfl := hinv.attemptIds.eq hx hy (hxc.trans hyc.symm)
      exact congrArg (fun r => [r]) (hinv.eq hr hexplains)
  · unfold KeyUnique
    rw [hids]
    exact hinv.claimIds

/-- Both bounds, for every step. -/
theorem OwnInvariant.moves (h : OwnInvariant w) (hok : OwnRefunds w a)
    (hstep : step a w = .ok w') : OwnMoves w a w'.db ∧ OwnReleases w a w'.db := by
  have hsame {db' : CancellationDb}
      (hattempts : db'.outboundShopifyRefundAttempt = w.db.outboundShopifyRefundAttempt)
      (hclaims : db'.orderShippingRefundClaim = w.db.orderShippingRefundClaim) :
      OwnMoves w a db' ∧ OwnReleases w a db' :=
    ⟨h.moves_same hattempts, h.releases_same hclaims⟩
  cases a with
  | recordOrder order allocations lines shopOrder =>
      simp only [step, World.recordOrder, bind_eq_ok, require_eq_ok, insertRows_eq_ok,
        pure_eq_ok] at hstep
      obtain ⟨_, -, _, -, _, -, _, -, _, -, _, -, _, -, rfl⟩ := hstep
      exact hsame rfl rfl
  | updateAllocation allocation =>
      obtain rfl := Except.ok.inj hstep
      exact hsame rfl rfl
  | merchantRefund orderId refund =>
      rw [executeRefund_db hstep]
      exact hsame rfl rfl
  | cancelShopifyOrder orderId =>
      obtain rfl := Except.ok.inj hstep
      exact hsame rfl rfl
  | executeSubmission submission refundId amountMinor =>
      simp only [step, World.executeSubmission, bind_eq_ok, require_eq_ok] at hstep
      obtain ⟨-, -, hstep⟩ := hstep
      rw [executeRefund_db hstep]
      exact hsame rfl rfl
  | createRequest input requestId itemIds =>
      have hcreate := putDb_eq_ok hstep
      refine hsame ?_ (create_sameOrders hcreate).claims
      obtain heq | ⟨_, _, _, -, -, -, -, -, -, -, -, -, heq⟩ := create_ok hcreate <;> rw [heq]
  | approveItem requestId itemId =>
      have happrove := putDb_eq_ok hstep
      refine hsame ?_ (approveItem_sameOrders happrove).claims
      simp only [approveCustomerCancellationItemForRefund, bind_eq_ok, getOrThrow_eq_ok,
        require_eq_ok, pure_eq_ok] at happrove
      obtain ⟨item, -, _, -, request, -, _, -, heq⟩ := happrove
      rw [← heq]
      rfl
  | ingestRefund event now =>
      simp only [step, bind_eq_ok, require_eq_ok] at hstep
      obtain ⟨-, ⟨o, ho, -, s, hs, hid, hlines⟩, hstep⟩ := hstep
      have hingesting := h.ingesting hok (mem_refunds.mpr ⟨o, ho, hs⟩) hid hlines
        (putDb_eq_ok hstep)
      exact ⟨hingesting.ownMoves h, hingesting.ownReleases h⟩
  | startJob i itemId =>
      obtain ⟨-, rfl⟩ := startWorker_ok hstep
      exact hsame rfl rfl
  | startPreview i input =>
      obtain ⟨-, rfl⟩ := startWorker_ok hstep
      exact hsame rfl rfl
  | startExecution i input =>
      obtain ⟨-, rfl⟩ := startWorker_ok hstep
      exact hsame rfl rfl
  | stop i =>
      obtain rfl := Except.ok.inj hstep
      exact hsame rfl rfl
  | run i reply =>
      obtain ⟨itemId, position, w₁, _, hworker, hrun, rfl⟩ |
        ⟨input, position, w₁, _, hworker, hrun, rfl⟩ := runWorker_ok hstep
      · have hwrite := runJob_write hrun
        refine ⟨h.moves_job (h.workers i _ hworker) (fun evidence hposition => ?_) hwrite,
          h.releases_same hwrite.sameOrders.claims⟩
        subst hposition
        simp only [evidenceOf, hworker]
      · have hwrite := runExecution_write hrun
        exact ⟨h.moves_execution (h.workers i _ hworker) hwrite, h.releases_execution hwrite⟩

end World

end VendorDashboard.Orders

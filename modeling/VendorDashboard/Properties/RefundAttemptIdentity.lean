import VendorDashboard.Properties.OrderCancelAfterRefund
import VendorDashboard.Properties.RefundAttemptMoves

/-!
# An attempt is resolved by its own refund

The ingestion of a refund writes the refund's identifier into every open attempt of an
allocation whose evidence it accepts and resolves it, whatever refund the attempt carries
(`resolveAttempts`), and it releases the claims of every resolved attempt of the allocation.  So
another refund of the allocation that arrives first takes an attempt away from its own refund
(`attempt_takenByOtherRefund`).

In every run in which each ingested refund is the own refund of the attempts that it touches,
and no administrator takes over the attempt of a cancellation item, an attempt never changes
its refund and is resolved, and its claim released, through this refund only
(`refundAttempt_ownRefund`).
-/

namespace VendorDashboard.Orders

open Finance (Id Instant)
open Table Transaction Run

namespace CancellationDb

variable {db db' : CancellationDb}

/-! ## What the services establish -/

lemma approveAndCreateAttempt_attempt {itemId attemptId : Id} {now : Instant}
    {context : CustomerCancellationAutoRefundCleanContext} {attempt : OutboundShopifyRefundAttempt}
    (h : db.approveAndCreateAttempt itemId context attemptId now = .ok (db', attempt)) :
    attempt ∈ db'.outboundShopifyRefundAttempt ∧
      attempt.customerCancellationRequestItemId = some itemId := by
  simp only [approveAndCreateAttempt, bind_eq_ok, getOrThrow_eq_ok, require_eq_ok] at h
  obtain ⟨item, hfind, allocation, -, _, -, _, -, _, -, _, -, h⟩ := h
  obtain ⟨-, hid⟩ := mem_of_findItem hfind
  split at h
  next existing hexisting =>
    simp only [pure_eq_ok, Prod.mk.injEq] at h
    obtain ⟨rfl, rfl⟩ := h
    exact ⟨mem_of_findRow hexisting, key_of_findRow hexisting⟩
  next =>
    simp only [bind_eq_ok, pure_eq_ok, Prod.mk.injEq, insertAttempt, require_eq_ok,
      insertRows_eq_ok] at h
    obtain ⟨inserted, ⟨-, -, attempts, ⟨-, rfl⟩, rfl⟩, rfl, rfl⟩ := h
    exact ⟨List.mem_append_right _ (List.mem_singleton.mpr rfl), congrArg some hid⟩

/-- A clean context is about the item's line at its requested quantity. -/
lemma classify_context {itemId : Id} {answers : ShopifyAnswers}
    {context : CustomerCancellationAutoRefundCleanContext}
    (h : db.classifyCustomerCancellationAutoRefundEligibility itemId answers = .ok context) :
    ∃ item, db.findItem itemId = some item ∧
      db.sourceLineItemIdOf item.shopifyOrderLineItemId = some context.sourceLineItemId ∧
      context.requestedQuantity = item.requestedQuantity := by
  simp only [classifyCustomerCancellationAutoRefundEligibility, bind_eq_ok, getOrThrow_eq_ok,
    pure_eq_ok] at h
  obtain ⟨item, hitem, request, -, order, -, allocation, -, line, hline, -, -, reads, -, _, -,
    productPreview, -, -, -, shippingPreview, -, _, -, preview, -, -, -, -, -, rfl⟩ := h
  exact ⟨item, hitem, hline, rfl⟩

lemma mem_of_mapM_ok {α β ε : Type} {f : α → Except ε β} {l : List α} {l' : List β}
    (h : l.mapM f = .ok l') {y : β} (hy : y ∈ l') : ∃ x ∈ l, f x = .ok y := by
  induction l generalizing l' with
  | nil =>
      rw [List.mapM_nil, pure_eq_ok] at h
      subst h
      simp at hy
  | cons x l ih =>
      simp only [List.mapM_cons, bind_eq_ok, pure_eq_ok] at h
      obtain ⟨z, hz, zs, hzs, rfl⟩ := h
      rcases List.mem_cons.mp hy with rfl | hy
      · exact ⟨x, List.mem_cons_self, hz⟩
      · obtain ⟨x', hx', hfx'⟩ := ih hzs hy
        exact ⟨x', List.mem_cons_of_mem _ hx', hfx'⟩

/-- A requested item is a line of the order at its whole quantity. -/
lemma mem_expectedScope {order : ShopifyOrder}
    {scope : List VerifiedCustomerCancellationRequestItemInput}
    (h : db.expectedScope order = .ok scope) {i : VerifiedCustomerCancellationRequestItemInput}
    (hi : i ∈ scope) : ∃ line ∈ order.lineItems, i.shopifyOrderLineItemId = line.id ∧
      i.requestedQuantity = line.quantity := by
  obtain ⟨line, hline, hf⟩ := mem_of_mapM_ok h hi
  refine ⟨line, hline, ?_⟩
  split at hf
  next =>
    split at hf
    next =>
      obtain rfl := Except.ok.inj hf
      exact ⟨rfl, rfl⟩
    next => simp only [reduceCtorEq] at hf
  next => simp only [reduceCtorEq] at hf

/-- The line of an order that is on file. -/
lemma sourceLineItemIdOf_eq (hunique : ((db.shopifyOrder.flatMap (·.lineItems)).map (·.id)).Nodup)
    {order : ShopifyOrder} (horder : order ∈ db.shopifyOrder) {line : ShopifyOrderLineItem}
    (hline : line ∈ order.lineItems) :
    db.sourceLineItemIdOf line.id = some line.sourceLineItemId := by
  have hfind : findRow ShopifyOrderLineItem.id line.id (db.shopifyOrder.flatMap (·.lineItems)) =
      some line := findRow_of_mem hunique (List.mem_flatMap.mpr ⟨order, horder, hline⟩)
  unfold findRow at hfind
  unfold sourceLineItemIdOf
  rw [hfind]
  rfl

end CancellationDb

namespace World

open CancellationDb

variable {w w' : World} {a : Action}

/-! ## Nothing is taken back -/

lemma sourceLineItemIdOf_append {db db' : CancellationDb} {new : List ShopifyOrder}
    (horders : db'.shopifyOrder = db.shopifyOrder ++ new) {id lineItemId : Id}
    (h : db.sourceLineItemIdOf id = some lineItemId) :
    db'.sourceLineItemIdOf id = some lineItemId := by
  unfold sourceLineItemIdOf at h ⊢
  obtain ⟨line, hfind, rfl⟩ := Option.map_eq_some_iff.mp h
  rw [horders, List.flatMap_append, List.find?_append, hfind]
  rfl

/-- The orders on file are kept. -/
lemma step_orders (h : step a w = .ok w') :
    ∃ new, w'.db.shopifyOrder = w.db.shopifyOrder ++ new := by
  cases step_shopChange h with
  | same _ horders => exact ⟨[], by rw [horders, List.append_nil]⟩
  | record order _ _ _ hrecord =>
      simp only [recordOrder, bind_eq_ok, require_eq_ok, insertRows_eq_ok, pure_eq_ok] at hrecord
      obtain ⟨_, -, _, -, _, -, _, -, orders, ⟨-, rfl⟩, _, -, allocations, -, rfl⟩ := hrecord
      exact ⟨[order], rfl⟩
  | merchant _ _ _ hexecute => exact ⟨[], by rw [executeRefund_db hexecute, List.append_nil]⟩
  | execute _ _ _ hexecute =>
      simp only [executeSubmission, bind_eq_ok, require_eq_ok] at hexecute
      obtain ⟨-, -, hexecute⟩ := hexecute
      exact ⟨[], by rw [executeRefund_db hexecute, List.append_nil]⟩
  | cancel _ hw' => exact ⟨[], by rw [hw', List.append_nil]⟩

/-- A refund after a step is an earlier one, a merchant's, or a submission's. -/
lemma step_refunds (h : step a w = .ok w') : w.refunds ⊆ w'.refunds ∧
    ∀ s ∈ w'.refunds, s ∈ w.refunds ∨ s.idempotencyKey = none ∨
      ∃ submission ∈ w.submissions, s.idempotencyKey = some submission.idempotencyKey ∧
        s.lines = submission.refundLineItems := by
  cases step_shopChange h with
  | same hshop _ =>
      have hrefunds : w'.refunds = w.refunds := by
        unfold refunds
        rw [hshop]
      rw [hrefunds]
      exact ⟨fun _ hs => hs, fun _ hs => .inl hs⟩
  | record order _ _ shopOrder hrecord =>
      simp only [recordOrder, bind_eq_ok, require_eq_ok, insertRows_eq_ok, pure_eq_ok] at hrecord
      obtain ⟨_, ⟨-, hempty, -⟩, _, -, _, -, _, -, orders, -, _, -, allocations, -, rfl⟩ := hrecord
      have hrefunds : (w.shop ++ [shopOrder]).flatMap (·.refunds) = w.refunds := by
        rw [List.flatMap_append, List.flatMap_singleton, hempty, List.append_nil]
        rfl
      unfold refunds at hrefunds ⊢
      simp only [hrefunds]
      exact ⟨fun _ hs => hs, fun _ hs => .inl hs⟩
  | merchant _ refund hkey hexecute =>
      refine ⟨refunds_subset_execute hexecute, fun s hs => ?_⟩
      rcases mem_refunds_execute hexecute hs with hold | rfl
      · exact .inl hold
      · exact .inr (.inl hkey)
  | execute submission refundId amountMinor hexecute =>
      simp only [executeSubmission, bind_eq_ok, require_eq_ok] at hexecute
      obtain ⟨-, hsubmission, hexecute⟩ := hexecute
      refine ⟨refunds_subset_execute hexecute, fun s hs => ?_⟩
      rcases mem_refunds_execute hexecute hs with hold | rfl
      · exact .inl hold
      · exact .inr (.inr ⟨submission, hsubmission, rfl, rfl⟩)
  | cancel orderId hw' =>
      have hrefunds : w'.refunds = w.refunds := by
        rw [hw']
        exact flatMap_updateWhere (fun _ => by rfl) _
      rw [hrefunds]
      exact ⟨fun _ hs => hs, fun _ hs => .inl hs⟩

/-- **The frame of a step.** -/
lemma OwnInvariant.grows (h : OwnInvariant w) (hok : OwnRefunds w a)
    (hstep : step a w = .ok w') : Grows w w' := by
  obtain ⟨new, horders⟩ := step_orders hstep
  constructor
  · intro i hi
    obtain ⟨-, f, hf, hscope, -⟩ | ⟨_, _, -, -, hitems⟩ := (itemsWellFormed_step h.rows hstep).2
    · exact ⟨f i, hf ▸ List.mem_map_of_mem hi, hscope i⟩
    · exact ⟨i, hitems ▸ List.mem_append_left _ hi, rfl, rfl, rfl, rfl, rfl⟩
  · intro x hx
    obtain ⟨f, new, hf, hmove, -⟩ := (h.moves hok hstep).1
    exact ⟨f x, hf ▸ List.mem_append_left _ (List.mem_map_of_mem hx), (hmove x hx).owner⟩
  · exact fun id lineItemId hline => sourceLineItemIdOf_append horders hline
  · rw [horders, List.flatMap_append]
    exact List.subset_append_left _ _
  · exact (step_refunds hstep).1

/-! ## Submissions -/

lemma runJob_submissions {itemId : Id} {position : JobStep} {reply : Reply}
    {next : Option JobStep} (h : w.runJob itemId position reply = .ok (w', next)) :
    w'.submissions = w.submissions ∨ ∃ attemptId context, position = .submit attemptId context ∧
      w'.submissions = w.submissions ++
        [(buildCustomerCancellationRefundSubmission attemptId context).2] := by
  revert h
  fun_cases runJob w itemId position reply
  all_goals
    intro h
    simp only [bind_eq_ok, pure_eq_ok, Except.ok.injEq, Prod.mk.injEq, reduceCtorEq] at h
  case case4 =>
    obtain ⟨_, -, rfl, -⟩ := h
    exact .inl rfl
  case case6 =>
    obtain ⟨_, -, h⟩ := h
    split at h <;> simp only [pure_eq_ok, Prod.mk.injEq] at h <;> exact .inl (h.1 ▸ rfl)
  case case15 =>
    obtain ⟨rfl, -⟩ := h
    exact .inr ⟨_, _, rfl, rfl⟩
  case case17 =>
    obtain ⟨_, -, rfl, -⟩ := h
    exact .inl rfl
  all_goals exact .inl (h.1 ▸ rfl)

lemma runExecution_submissions {input : CreatePreviewAttemptInput} {position : ExecutionStep}
    {reply : Reply} {next : Option ExecutionStep}
    (h : w.runExecution input position reply = .ok (w', next)) :
    w'.submissions = w.submissions ∨ ∃ attemptId submission, position = .submit attemptId ∧
      submission.idempotencyKey = ⟨input.vendorAllocationId, attemptId⟩ ∧
      w'.submissions = w.submissions ++ [submission] := by
  revert h
  fun_cases runExecution w input position reply
  all_goals
    intro h
    simp only [bind_eq_ok, pure_eq_ok, Except.ok.injEq, Prod.mk.injEq, reduceCtorEq] at h
  case case2 =>
    obtain ⟨_, -, rfl, -⟩ := h
    exact .inl rfl
  case case7 =>
    obtain ⟨_, -, rfl, -⟩ := h
    exact .inl rfl
  case case15 =>
    obtain ⟨_, -, rfl, -⟩ := h
    exact .inl rfl
  case case18 =>
    obtain ⟨rfl, -⟩ := h
    exact .inr ⟨_, _, rfl, rfl, rfl⟩
  case case20 =>
    obtain ⟨_, -, rfl, -⟩ := h
    exact .inl rfl
  all_goals exact .inl (h.1 ▸ rfl)

lemma putDb_submissions {x : Except String CancellationDb} (h : w.putDb <$> x = .ok w') :
    w'.submissions = w.submissions := by
  cases x with
  | error => cases h
  | ok db =>
      obtain rfl := Except.ok.inj h
      rfl

lemma executeRefund_submissions {orderId : Id} {refund : StoreRefund}
    (h : w.executeRefund orderId refund = .ok w') : w'.submissions = w.submissions := by
  obtain ⟨-, -, rfl⟩ := executeRefund_ok h
  rfl

/-- Where a sent request comes from. -/
inductive SubmissionStep (w : World) (s : CreateShopifyRefundInput) : Prop
  | old (hold : s ∈ w.submissions)
  | job (k itemId attemptId : Id) (context : CustomerCancellationAutoRefundCleanContext)
      (hworker : w.worker k = some (.job itemId (.submit attemptId context)))
      (hs : s = (buildCustomerCancellationRefundSubmission attemptId context).2)
  | execution (k : Id) (input : CreatePreviewAttemptInput) (attemptId : Id)
      (hworker : w.worker k = some (.execution input (.submit attemptId)))
      (hkey : s.idempotencyKey = ⟨input.vendorAllocationId, attemptId⟩)

/-- **The inversion of a step for the sent requests.** -/
theorem step_submissionStep (hstep : step a w = .ok w') :
    ∀ s ∈ w'.submissions, SubmissionStep w s := by
  have hsame (heq : w'.submissions = w.submissions) : ∀ s ∈ w'.submissions, SubmissionStep w s :=
    fun s hs => .old (heq ▸ hs)
  cases a with
  | recordOrder order allocations lines shopOrder =>
      simp only [step, World.recordOrder, bind_eq_ok, require_eq_ok, insertRows_eq_ok,
        pure_eq_ok] at hstep
      obtain ⟨_, -, _, -, _, -, _, -, _, -, _, -, _, -, rfl⟩ := hstep
      exact hsame rfl
  | updateAllocation allocation =>
      obtain rfl := Except.ok.inj hstep
      exact hsame rfl
  | merchantRefund orderId refund => exact hsame (executeRefund_submissions hstep)
  | cancelShopifyOrder orderId =>
      obtain rfl := Except.ok.inj hstep
      exact hsame rfl
  | executeSubmission submission refundId amountMinor =>
      simp only [step, World.executeSubmission, bind_eq_ok, require_eq_ok] at hstep
      obtain ⟨-, -, hstep⟩ := hstep
      exact hsame (executeRefund_submissions hstep)
  | createRequest input requestId itemIds => exact hsame (putDb_submissions hstep)
  | approveItem requestId itemId => exact hsame (putDb_submissions hstep)
  | ingestRefund event now =>
      simp only [step, bind_eq_ok, require_eq_ok] at hstep
      obtain ⟨-, -, hstep⟩ := hstep
      exact hsame (putDb_submissions hstep)
  | startJob i itemId =>
      obtain ⟨-, rfl⟩ := startWorker_ok hstep
      exact hsame rfl
  | startPreview i input =>
      obtain ⟨-, rfl⟩ := startWorker_ok hstep
      exact hsame rfl
  | startExecution i input =>
      obtain ⟨-, rfl⟩ := startWorker_ok hstep
      exact hsame rfl
  | stop i =>
      obtain rfl := Except.ok.inj hstep
      exact hsame rfl
  | run i reply =>
      obtain ⟨itemId, position, w₁, _, hworker, hrun, rfl⟩ |
        ⟨input, position, w₁, _, hworker, hrun, rfl⟩ := runWorker_ok hstep
      · obtain heq | ⟨attemptId, context, rfl, heq⟩ := runJob_submissions hrun
        · exact hsame heq
        · intro s hs
          rw [putWorker_submissions, heq] at hs
          rcases List.mem_append.mp hs with hold | hnew
          · exact .old hold
          · exact .job i itemId attemptId context hworker (List.mem_singleton.mp hnew)
      · obtain heq | ⟨attemptId, submission, rfl, hkey, heq⟩ := runExecution_submissions hrun
        · exact hsame heq
        · intro s hs
          rw [putWorker_submissions, heq] at hs
          rcases List.mem_append.mp hs with hold | hnew
          · exact .old hold
          · obtain rfl := List.mem_singleton.mp hnew
            exact .execution i input attemptId hworker hkey

/-- Every request that was sent is under the key of an attempt. -/
lemma OwnInvariant.step_submissions (h : OwnInvariant w) (hstep : step a w = .ok w') :
    ∀ s ∈ w'.submissions, w.KeyFor s.idempotencyKey s.refundLineItems := by
  intro s hs
  cases step_submissionStep hstep s hs with
  | old hold => exact h.submissions s hold
  | job k itemId attemptId context hworker hs =>
      obtain ⟨⟨x, hx, hid, hitem⟩, hat⟩ := h.workers k _ hworker
      rw [hs]
      refine ⟨x, hx, hid, fun itemId' hitem' => ?_⟩
      obtain rfl := Option.some.inj (hitem.symm.trans hitem')
      exact ⟨_, _, hat, by simp [buildCustomerCancellationRefundSubmission, refundedQuantity]⟩
  | execution k input attemptId hworker hkey =>
      obtain ⟨x, hx, hid, -, hitem⟩ := h.workers k _ hworker
      rw [hkey]
      refine ⟨x, hx, hid, fun itemId hitem' => ?_⟩
      rw [hitem] at hitem'
      simp only [reduceCtorEq] at hitem'

/-! ## Workers -/

/-- The refunds that cover an item's line are executed refunds of the line. -/
lemma coveringRefunds_ok {attempt : Option OutboundShopifyRefundAttempt}
    {refunds : CanonicalRefunds} {order : OrderSnapshot} {lineItemId : Id} {quantity : ℕ}
    (hlists : w.Lists refunds) (hquantity : 0 < quantity)
    (hcovers : canonicalRefundsCoverItem attempt lineItemId quantity refunds order = true) :
    coveringRefunds attempt refunds lineItemId ≠ [] ∧
      (coveringRefunds attempt refunds lineItemId).Nodup ∧
      ∀ r ∈ coveringRefunds attempt refunds lineItemId, w.TakesLine r lineItemId 1 := by
  unfold coveringRefunds
  refine ⟨fun hnil => ?_, ?_, fun r hr => ?_⟩
  · rw [canonicalRefundsCoverItem, Bool.and_eq_true, decide_eq_true_eq] at hcovers
    rw [List.map_eq_nil_iff, List.filter_eq_nil_iff] at hnil
    have hzero : ((relevantRefunds attempt refunds).map fun r =>
        exactRefundedQuantity r lineItemId).sum = 0 := by
      refine List.sum_eq_zero fun q hq => ?_
      obtain ⟨r, hr, rfl⟩ := List.mem_map.mp hq
      have hr0 := hnil r hr
      rw [decide_eq_true_eq] at hr0
      omega
    omega
  · have hsub : ((relevantRefunds attempt refunds).filter fun r =>
        decide (0 < exactRefundedQuantity r lineItemId)).Sublist refunds.refunds :=
      List.filter_sublist.trans List.filter_sublist
    exact (hsub.map _).nodup hlists.1
  · obtain ⟨c, hc, rfl⟩ := List.mem_map.mp hr
    obtain ⟨hc, hpos⟩ := List.mem_filter.mp hc
    obtain ⟨hc, -⟩ := List.mem_filter.mp hc
    obtain ⟨s, hs, hid, hlines⟩ := hlists.2 c hc
    refine ⟨s, hs, hid, ?_⟩
    rw [decide_eq_true_eq, exactRefundedQuantity, ← hlines] at hpos
    exact hpos

/-- What a job holds after its own step. -/
lemma OwnInvariant.jobOk_next (h : OwnInvariant w) {w₁ : World} {itemId : Id}
    {position next : JobStep} (hok : w.JobOk itemId position) (hgrows : Grows w w₁)
    (hnext : JobNext w itemId position w₁ next) : w₁.JobOk itemId next := by
  cases hnext with
  | load again item line hfind _ hline =>
      obtain ⟨hitem, hid⟩ := mem_of_findItem hfind
      exact ⟨item, hitem, hid, rfl, hline⟩
  | covered again attempt line quantity refunds order hlists hcovers =>
      obtain ⟨i, hi, hid, rfl, hline⟩ := hok
      obtain ⟨hne, hnodup, htakes⟩ := coveringRefunds_ok hlists (h.wholeLines i hi).1 hcovers
      exact ⟨hne, hnodup, line, _, ⟨i, hi, hid, rfl, hline⟩, htakes⟩
  | approved context newId now db' attempt happrove =>
      obtain ⟨hmem, hitem⟩ := approveAndCreateAttempt_attempt happrove
      exact ⟨attempt, hmem, rfl, hitem⟩
  | cleanAgain attemptId answers context hclean =>
      obtain ⟨item, hfind, hline, hquantity⟩ := classify_context hclean
      obtain ⟨hitem, hid⟩ := mem_of_findItem hfind
      exact ⟨hok, item, hitem, hid, hquantity.symm, hline⟩
  | submitted attemptId context => exact ⟨hok.1.mono hgrows, rfl⟩
  | responded attemptId key refundId hresponds =>
      refine ⟨hok.1, fun r hr => ⟨key, hok.2, ?_⟩⟩
      exact hresponds r hr
  | confirm _ _ _ hconfirm => cases next <;> first | exact trivial | exact hconfirm.elim
  | _ => trivial

lemma OwnInvariant.existingPreview_manual (h : OwnInvariant w) {vendorAllocationId id : Id}
    (hid : id ∈ (w.db.existingPreview vendorAllocationId).map (·.id)) :
    w.ManualAttempt vendorAllocationId id := by
  obtain ⟨x, hfind, rfl⟩ := Option.map_eq_some_iff.mp hid
  obtain ⟨hx, hp⟩ := List.mem_filter.mp (mem_of_latestBy hfind)
  rw [Bool.and_eq_true, decide_eq_true_eq, decide_eq_true_eq] at hp
  refine ⟨x, hx, rfl, hp.1, ?_⟩
  by_contra hitem
  exact h.notPreviewed x hx (Option.isSome_iff_ne_none.mpr hitem) hp.2

/-- What an administrator's refund holds after its own step. -/
lemma OwnInvariant.executionOk_next (h : OwnInvariant w) {w₁ : World}
    {input : CreatePreviewAttemptInput} {position next : ExecutionStep}
    (hok : w.ExecutionOk input position) (hgrows : Grows w w₁)
    (htakeOver : position = .readActiveAttempt → ∀ x ∈
      w.db.findActiveOutboundShopifyRefundAttemptForAllocation input.vendorAllocationId,
      x.customerCancellationRequestItemId = none)
    (hnext : ExecutionNext w input position w₁ next) : w₁.ExecutionOk input next := by
  cases hnext with
  | preview => exact fun id hid => h.existingPreview_manual hid
  | lock => exact fun id hid => h.existingPreview_manual hid
  | takeOver attempt hfind =>
      obtain ⟨hx, hp⟩ := List.mem_filter.mp (mem_of_latestBy hfind)
      rw [Bool.and_eq_true, decide_eq_true_eq] at hp
      exact ⟨attempt, hx, rfl, hp.1, htakeOver rfl attempt hfind⟩
  | locked existing newId now db' hwrite =>
      cases existing with
      | none =>
          simp only [CancellationDb.writeExecution, insertAttempt, bind_eq_ok, require_eq_ok,
            insertRows_eq_ok, pure_eq_ok] at hwrite
          obtain ⟨-, -, attempts, ⟨-, rfl⟩, rfl⟩ := hwrite
          exact ⟨_, List.mem_append_right _ (List.mem_singleton.mpr rfl), rfl, rfl, rfl⟩
      | some id => exact (hok id rfl).mono hgrows
  | prepared => exact hok
  | claim => exact hok
  | claimed => exact ManualAttempt.mono hgrows hok
  | submitted => exact ⟨ManualAttempt.mono hgrows hok, rfl⟩
  | responded attemptId key refundId hresponds =>
      refine ⟨hok.1, fun r hr => ?_⟩
      obtain ⟨s, hs, hid, hkey⟩ := hresponds r hr
      exact ⟨s, hs, hid, hok.2 ▸ hkey⟩
  | _ => trivial

/-! ## The invariant in a run -/

lemma WholeLines.moved (h : WholeLines w) (hgrows : Grows w w') (hm : w.db.ItemsMoved w'.db) :
    WholeLines w' := by
  obtain ⟨-, f, hf, hscope, -⟩ := hm
  intro i' hi'
  rw [hf] at hi'
  obtain ⟨i, hi, rfl⟩ := List.mem_map.mp hi'
  obtain ⟨hpos, lineItemId, hline, hpair⟩ := h i hi
  obtain ⟨-, -, hsame, -, hquantity⟩ := hscope i
  rw [hsame, hquantity]
  exact ⟨hpos, lineItemId, hgrows.lines _ _ hline, hgrows.pairs hpair⟩

lemma WholeLines.create (h : WholeLines w) (hstore : StoreMatches w)
    {input : CreateVerifiedCustomerCancellationRequestInput} {requestId : Id} {itemIds : List Id}
    {db' : CancellationDb} (hgrows : Grows w w') (hdb' : w'.db = db')
    (hcreate : w.db.createPendingCustomerCancellationRequest input requestId itemIds = .ok db') :
    WholeLines w' := by
  obtain heq | ⟨input, order, scope, horder, hscope, hperm, -, hpositive, -, -, -, -, heq⟩ :=
    create_ok hcreate
  · refine h.moved hgrows (.of_same ?_)
    rw [hdb', heq]
    exact .refl _
  intro i hi
  rw [hdb', heq] at hi ⊢
  rcases List.mem_append.mp hi with hold | hnew
  · exact h i hold
  · obtain ⟨⟨itemId, item⟩, hmem, rfl⟩ := List.mem_map.mp hnew
    have hitem : item ∈ input.items := (List.of_mem_zip hmem).2
    obtain ⟨line, hline, hlineId, hquantity⟩ := mem_expectedScope hscope (hperm.mem_iff.mpr hitem)
    have horder' : order ∈ w.db.shopifyOrder := mem_of_findRow horder
    refine ⟨hpositive item hitem, line.sourceLineItemId, ?_, ?_⟩
    · rw [newItem, hlineId]
      exact sourceLineItemIdOf_eq hstore.localIds horder' hline
    · refine List.mem_flatMap.mpr ⟨order, horder', List.mem_map.mpr ⟨line, hline, ?_⟩⟩
      rw [newItem, hquantity]

lemma OwnInvariant.step_wholeLines (h : OwnInvariant w) (hgrows : Grows w w')
    (hstep : step a w = .ok w') : WholeLines w' := by
  obtain hchange | ⟨event, now, -, hingest⟩ := step_itemChange hstep
  · cases hchange with
    | same hs => exact h.wholeLines.moved hgrows (.of_same hs)
    | create _ _ _ hcreate => exact h.wholeLines.create h.store hgrows rfl hcreate
    | move item status resolvedQuantity resolvedAt hitem hadvance _ hs =>
        exact h.wholeLines.moved hgrows
          ((moveItem_moved h.rows hitem hadvance resolvedQuantity _ resolvedAt).trans (.of_same hs))
  · exact h.wholeLines.moved hgrows (ingest_moved h.rows hingest)

/-- The place of a worker is not part of what grows. -/
lemma Grows.of_putWorker {k : Id} {position : Option Worker}
    (h : Grows w (w'.putWorker k position)) : Grows w w' :=
  ⟨h.items, h.attempts, h.lines, h.pairs, h.refunds⟩

/-- **The step lemma.** -/
theorem OwnInvariant.step (h : OwnInvariant w) (hok : OwnRefunds w a)
    (hstep : Orders.step a w = .ok w') : OwnInvariant w' := by
  have hgrows := h.grows hok hstep
  obtain ⟨⟨f, new, hf, hmove, hnew, hattemptIds⟩, _, _, -, -, -, hclaimIds⟩ := h.moves hok hstep
  have hsubmissions := h.step_submissions hstep
  -- an attempt comes from one before the step, or it is new
  have hattempt : ∀ x' ∈ w'.db.outboundShopifyRefundAttempt,
      (∃ x ∈ w.db.outboundShopifyRefundAttempt, OwnMove w a x x') ∨ IsNew x' := by
    intro x' hx'
    rw [hf] at hx'
    rcases List.mem_append.mp hx' with hold | hx'
    · obtain ⟨x, hx, rfl⟩ := List.mem_map.mp hold
      exact .inl ⟨x, hx, hmove x hx⟩
    · exact .inr (hnew x' hx')
  constructor
  · exact (itemsWellFormed_step h.rows hstep).1
  · exact h.store.step hstep
  · exact h.step_wholeLines hgrows hstep
  · exact hattemptIds
  · intro x' hx' hitem hpreviewed
    rcases hattempt x' hx' with ⟨x, hx, hm⟩ | hx'new
    · have hitem' : x.customerCancellationRequestItemId.isSome := hm.owner.2.2 ▸ hitem
      exact h.notPreviewed x hx hitem' (hm.previewed hitem' hpreviewed)
    · exact hx'new.previewed hitem hpreviewed
  · exact hclaimIds
  · exact fun s hs => (hsubmissions s hs).mono hgrows
  · intro s hs key hkey
    obtain hold | hnone | ⟨submission, hsubmission, hkey', hlines⟩ := (step_refunds hstep).2 s hs
    · exact (h.refunds s hold key hkey).mono hgrows
    · simp [hnone] at hkey
    · obtain rfl := Option.some.inj (hkey'.symm.trans hkey)
      rw [hlines]
      exact (h.submissions submission hsubmission).mono hgrows
  · intro k worker hworker
    cases step_workerStep hstep k with
    | same hsame => exact (h.workers k worker (hsame ▸ hworker)).mono hgrows
    | stopped hstopped => simp [hstopped] at hworker
    | started started hstart hworker' =>
        obtain rfl := Option.some.inj (hworker'.symm.trans hworker)
        exact workerOk_of_isStart hstart
    | job itemId position reply next w₁ ha hworker₀ hrun hw' =>
        subst hw'
        rw [putWorker_worker_self, Option.map_eq_some_iff] at hworker
        obtain ⟨next', rfl, rfl⟩ := hworker
        have hnext : w₁.JobOk itemId next' :=
          h.jobOk_next (h.workers k _ hworker₀) hgrows.of_putWorker (runJob_next hrun)
        exact hnext
    | execution input position reply next w₁ ha hworker₀ hrun hw' =>
        subst hw' ha
        rw [putWorker_worker_self, Option.map_eq_some_iff] at hworker
        obtain ⟨next', rfl, rfl⟩ := hworker
        have htakeOver : position = .readActiveAttempt → ∀ x ∈
            w.db.findActiveOutboundShopifyRefundAttemptForAllocation input.vendorAllocationId,
            x.customerCancellationRequestItemId = none := by
          rintro rfl
          exact hok input.vendorAllocationId (by simp [hworker₀, Worker.looksForAttempt])
        have hnext : w₁.ExecutionOk input next' :=
          h.executionOk_next (h.workers k _ hworker₀) hgrows.of_putWorker htakeOver
            (runExecution_next hrun)
        exact hnext
  · intro x' hx' r hr
    rcases hattempt x' hx' with ⟨x, hx, hm⟩ | hx'new
    · exact (hm.carried r hr).mono hgrows hm.owner
    · simp [hx'new.carried] at hr

end World

/-- The invariant holds in every run whose ingested refunds are the attempts' own. -/
lemma ownInvariant {w : World} (h : ReachableWith OwnRefunds w) : w.OwnInvariant := by
  refine Reachable.invariant (P := World.OwnInvariant) ?_ ?_ h
  · rintro _ rfl
    exact World.OwnInvariant.init
  · rintro v v' - hv ⟨a, hok, hstep⟩
    exact hv.step hok hstep

/-- What the attempts carry later in a run is what they carried, as long as they carry a refund. -/
def KeepsRefunds (w w' : World) : Prop :=
  ∀ x ∈ w.db.outboundShopifyRefundAttempt, ∀ x' ∈ w'.db.outboundShopifyRefundAttempt,
    x'.id = x.id → ∀ r r', x.shopifyRefundId = some r → x'.shopifyRefundId = some r' → r' = r

/-- An attempt that the step resolves, or whose claim it releases, is resolved through the
refund that the attempt carries. -/
def ResolvesOwn (w : World) (a : Action) (w' : World) : Prop :=
  ∀ x ∈ w.db.outboundShopifyRefundAttempt, ∀ x' ∈ w'.db.outboundShopifyRefundAttempt,
    x'.id = x.id → ∀ r, x.shopifyRefundId = some r ∨ x'.shopifyRefundId = some r →
      (x.status ≠ .resolved → x'.status = .resolved → w.evidenceOf a = [r]) ∧
      ∀ c ∈ w.db.orderShippingRefundClaim, ∀ c' ∈ w'.db.orderShippingRefundClaim, c'.id = c.id →
        c.ownerAttemptId = x.id → c.status ≠ .released → c'.status = .released →
          w.evidenceOf a = [r]

namespace World

variable {w w' w'' : World} {a : Action}

/-- An attempt after a step is the one before it. -/
lemma OwnInvariant.move_of_id (h : OwnInvariant w) (hok : OwnRefunds w a)
    (hstep : Orders.step a w = .ok w') {x x' : OutboundShopifyRefundAttempt}
    (hx : x ∈ w.db.outboundShopifyRefundAttempt) (hx' : x' ∈ w'.db.outboundShopifyRefundAttempt)
    (hid : x'.id = x.id) : OwnMove w a x x' := by
  obtain ⟨f, new, hf, hmove, -, hunique⟩ := (h.moves hok hstep).1
  have hmem : f x ∈ w'.db.outboundShopifyRefundAttempt :=
    hf ▸ List.mem_append_left _ (List.mem_map_of_mem hx)
  obtain rfl := hunique.eq hx' hmem (hid.trans (hmove x hx).owner.1.symm)
  exact hmove x hx

lemma OwnInvariant.resolvesOwn (h : OwnInvariant w) (hok : OwnRefunds w a)
    (hstep : Orders.step a w = .ok w') : ResolvesOwn w a w' := by
  intro x hx x' hx' hid r hr
  have hmove := h.move_of_id hok hstep hx hx' hid
  refine ⟨fun hne heq => hmove.resolved hne heq r hr, ?_⟩
  intro c hc c' hc' hcid howner hne hreleased
  obtain ⟨g, new, hg, hrelease, -, hunique⟩ := (h.moves hok hstep).2
  have hmem : g c ∈ w'.db.orderShippingRefundClaim :=
    hg ▸ List.mem_append_left _ (List.mem_map_of_mem hc)
  obtain ⟨hgid, -, hown⟩ := hrelease c hc
  obtain rfl := hunique.eq hc' hmem (hcid.trans hgid.symm)
  have hexplains : w.Explains r x := by
    rcases hr with hbefore | hafter
    · exact h.carried x hx r hbefore
    · exact hmove.carried r hafter
  exact hown hne hreleased x hx howner.symm r hexplains

/-- The invariant and the frame along the rest of a run. -/
lemma OwnInvariant.run (h : OwnInvariant w)
    (hrun : Reachable (fun v => v = w) (Commits Orders.step OwnRefunds) w') :
    OwnInvariant w' ∧ Grows w w' := by
  refine Reachable.invariant (P := fun v => OwnInvariant v ∧ Grows w v) ?_ ?_ hrun
  · rintro _ rfl
    exact ⟨h, .refl _⟩
  · rintro u v - ⟨hu, hgrows⟩ ⟨a, hok, hstep⟩
    exact ⟨hu.step hok hstep, hgrows.trans (hu.grows hok hstep)⟩

lemma OwnInvariant.keepsRefunds (h : OwnInvariant w)
    (hrun : Reachable (fun v => v = w) (Commits Orders.step OwnRefunds) w') :
    KeepsRefunds w w' := by
  obtain ⟨h', hgrows⟩ := h.run hrun
  intro x hx x' hx' hid r r' hr hr'
  obtain ⟨y, hy, howner⟩ := hgrows.attempts x hx
  obtain rfl := h'.attemptIds.eq hx' hy (hid.trans howner.1.symm)
  exact h'.eq ((h.carried x hx r hr).mono hgrows howner) (h'.carried x' hx' r' hr')

end World

/-- **An attempt is resolved by its own refund**, in every run whose ingested refunds are the own
refunds of the attempts that they touch. -/
theorem refundAttempt_ownRefund {w : World} (h : ReachableWith OwnRefunds w) :
    (∀ w', Reachable (fun v => v = w) (Commits step OwnRefunds) w' → KeepsRefunds w w') ∧
      ∀ a w', OwnRefunds w a → step a w = .ok w' → ResolvesOwn w a w' :=
  ⟨fun _ hrun => (ownInvariant h).keepsRefunds hrun,
    fun _ _ hok hstep => (ownInvariant h).resolvesOwn hok hstep⟩

/-! ## One line of two pieces -/

instance (w : World) (refundId : Id) (x : OutboundShopifyRefundAttempt) :
    Decidable (w.Explains refundId x) :=
  match h : x.customerCancellationRequestItemId with
  | none =>
      decidable_of_iff (∃ s ∈ w.refunds, s.id = refundId ∧
        s.idempotencyKey = some ⟨x.vendorAllocationId, x.id⟩) (by
          simp only [World.Explains, h, World.ExecutedUnder])
  | some itemId =>
      decidable_of_iff (∃ i ∈ w.db.customerCancellationRequestItem, i.id = itemId ∧
        ∃ lineItemId ∈ w.db.sourceLineItemIdOf i.shopifyOrderLineItemId, ∃ s ∈ w.refunds,
          s.id = refundId ∧ i.requestedQuantity ≤ refundedQuantity s.lines lineItemId) (by
            simp only [World.Explains, h, World.TakesLine])

instance (w : World) : (a : Action) → Decidable (OwnRefunds w a)
  | .ingestRefund event _ => inferInstanceAs (Decidable (∀ x ∈ w.db.outboundShopifyRefundAttempt,
      w.db.touches event x = true → w.Explains event.sourceShopifyRefundId x))
  | .run i _ => inferInstanceAs (Decidable (
      ∀ vendorAllocationId ∈ (w.worker i).bind Worker.looksForAttempt,
        ∀ x ∈ w.db.findActiveOutboundShopifyRefundAttemptForAllocation vendorAllocationId,
          x.customerCancellationRequestItemId = none))
  | .recordOrder .. | .updateAllocation _ | .merchantRefund .. | .cancelShopifyOrder _
  | .executeSubmission .. | .createRequest .. | .approveItem .. | .startJob .. | .startPreview ..
  | .startExecution .. | .stop _ => .isTrue trivial

namespace TwoPieces

/-- Shopify's view of an order with one line of two pieces. -/
def shopOrder : StoreOrder where
  sourceShopifyOrderId := 100
  currency := "TRY"
  cancelled := false
  lineItems := [⟨111, 2⟩]
  shippingMinor := 0
  refunds := []

def order : ShopifyOrder := ⟨1, 100, some "TRY", [⟨11, 111, 2⟩]⟩

def input : CreatePreviewAttemptInput := ⟨21, 100, false, [⟨111, 1, none, none, none, none⟩]⟩

def submission : CreateShopifyRefundInput := ⟨100, [(111, 1)], none, [], none, ⟨21, 51⟩⟩

/-- An administrator refunds one piece, and Shopify answers with refund 900. -/
def refundOnePiece : List Action :=
  [.recordOrder order [TwoLines.allocation 21] [⟨21, 11, 2⟩] shopOrder, .startExecution 1 input,
    .run 1 (.local 1 0), .run 1 (.local 1 0), .run 1 (.local 1 51), .run 1 .noShipping,
    .run 1 (.send [(111, 1)] none), .executeSubmission submission 900 1000,
    .run 1 (.refundCreate (some 900) false), .run 1 (.submitted (some 900) none),
    .run 1 (.local 1 0)]

/-- The merchant refunds the other piece as refund 901. -/
def merchantRefund : Action := .merchantRefund 100 ⟨901, none, [(111, 1)], 0, 1000⟩

/-- The webhook of one of the refunds. -/
def ingest (refundId : Id) : Action :=
  .ingestRefund ⟨refundId, 100, [(111, 1)], true, none, [21]⟩ 5

/-- The refund that the attempt carries, and its status. -/
def attempt (w : World) : Option (Option Id × RefundAttemptStatus) :=
  (w.db.findAttempt 51).map fun x => (x.shopifyRefundId, x.status)

end TwoPieces

/-- The webhook of the merchant's refund arrives first: the attempt that carries refund 900 is
given refund 901 and resolved. -/
theorem attempt_takenByOtherRefund : ∃ w w', ReachableWith (fun _ _ => True) w ∧
    step (TwoPieces.ingest 901) w = .ok w' ∧
    TwoPieces.attempt w = some (some 900, .shopifyActionPending) ∧
    TwoPieces.attempt w' = some (some 901, .resolved) ∧
    ¬KeepsRefunds w w' ∧ ¬ResolvesOwn w (TwoPieces.ingest 901) w' := by
  have hrun : Succeeds (runActions step (TwoPieces.refundOnePiece ++ [TwoPieces.merchantRefund])
      World.init) fun w => TwoPieces.attempt w = some (some 900, .shopifyActionPending) ∧
        Succeeds (step (TwoPieces.ingest 901) w) fun w' =>
          TwoPieces.attempt w' = some (some 901, .resolved) := by
    decide +kernel
  obtain ⟨w, hw, hattempt, hstep⟩ := succeeds_iff.mp hrun
  obtain ⟨w', hw', hattempt'⟩ := succeeds_iff.mp hstep
  refine ⟨w, w', reachable_of_runActions (.start rfl) (fun _ _ _ => trivial) hw, hw', hattempt,
    hattempt', ?_⟩
  obtain ⟨x, hx, hxeq⟩ := Option.map_eq_some_iff.mp hattempt
  obtain ⟨x', hx', hxeq'⟩ := Option.map_eq_some_iff.mp hattempt'
  obtain ⟨hrefund, hstatus⟩ := Prod.mk.inj hxeq
  obtain ⟨hrefund', hstatus'⟩ := Prod.mk.inj hxeq'
  have hid : x'.id = x.id := (key_of_findRow hx').trans (key_of_findRow hx).symm
  refine ⟨fun h => ?_, fun h => ?_⟩
  · have heq := h x (mem_of_findRow hx) x' (mem_of_findRow hx') hid 900 901 hrefund hrefund'
    exact absurd heq (by decide)
  · have heq := (h x (mem_of_findRow hx) x' (mem_of_findRow hx') hid 900 (.inl hrefund)).1
      (by simp [hstatus]) hstatus'
    simp [World.evidenceOf, TwoPieces.ingest] at heq

theorem refundAttempt_ownRefund_onePiece : ∃ w w',
    runActions (guarded OwnRefunds "" step) TwoPieces.refundOnePiece World.init = .ok w ∧
      step (TwoPieces.ingest 900) w = .ok w' ∧
      TwoPieces.attempt w' = some (some 900, .resolved) ∧
      KeepsRefunds w w' ∧ ResolvesOwn w (TwoPieces.ingest 900) w' := by
  have hrun : Succeeds (runActions (guarded OwnRefunds "" step) TwoPieces.refundOnePiece
      World.init) fun w => OwnRefunds w (TwoPieces.ingest 900) ∧
        Succeeds (step (TwoPieces.ingest 900) w) fun w' =>
          TwoPieces.attempt w' = some (some 900, .resolved) := by
    decide +kernel
  obtain ⟨w, hw, hok, hstep⟩ := succeeds_iff.mp hrun
  obtain ⟨w', hw', hattempt'⟩ := succeeds_iff.mp hstep
  have hreach : ReachableWith OwnRefunds w := reachable_of_runGuarded (.start rfl) hw
  obtain ⟨hkeeps, hresolves⟩ := refundAttempt_ownRefund hreach
  exact ⟨w, w', hw, hw', hattempt', hkeeps w' (.step (.start rfl) ⟨_, hok, hw'⟩),
    hresolves _ w' hok hw'⟩

end VendorDashboard.Orders

import VendorDashboard.Properties.CanonicalReport
import VendorDashboard.Properties.RefundAttemptRecords

/-!
# Executed refunds reconcile

An attempt of a cancellation item records how much checkout shipping its refund is meant to
take.  The reconciliation compares this amount with the shipping that Shopify refunded for the
whole order.  When the attempt of a second item is recorded after the first one's refund took the
shipping, the amounts differ for good: the second item is refunded and never reconciled
(`secondItem_notReconciled`).

In every run in which no shipping is refunded before the attempts are recorded, every item whose
refund was executed reconciles, whatever the order of refunds and reconciliations
(`executedRefund_reconciles`).
-/

namespace VendorDashboard.Orders

open Finance (Id Instant CustomerCancellationStatus)
open Table Transaction Run

/-! ## What an attempt should record -/

/-- The recorded line is the whole line of the order, with all of the order's shipping. -/
structure RecordsLine (o : StoreOrder) (l : StoreLine) (line : SubmittedRefundLine) : Prop where
  current : line.preRefundCurrentQuantity = some (l.quantity : ℤ)
  refundable : line.preRefundRefundableQuantity = some (l.quantity : ℤ)
  shipping : line.intendedShippingRefundMinor = some (o.shippingMinor : ℤ)
  currency : line.intendedShippingRefundCurrencyCode = some o.currency

/-- Refunds of an order, once there are any, took all of its shipping; each moved money. -/
structure StoreOrder.Settled (o : StoreOrder) : Prop where
  shipping : o.refunds ≠ [] → o.refundedShipping = o.shippingMinor
  amounts : ∀ s ∈ o.refunds, 0 < s.amountMinor
  currency : (normalizedCurrency (some o.currency)).isSome

namespace StoreOrder

variable {o : StoreOrder} {l : StoreLine}

/-- A refund that takes a whole line takes all that is refunded of it, also among the refunds
that remain when some others are left out. -/
lemma Consistent.sum_filter_eq (h : o.Consistent) (hl : l ∈ o.lineItems) {s : StoreRefund}
    (hs : s ∈ o.refunds) (htakes : l.quantity ≤ refundedQuantity s.lines l.sourceLineItemId)
    {p : StoreRefund → Bool} (hp : p s = true) :
    ((o.refunds.filter p).map fun r => refundedQuantity r.lines l.sourceLineItemId).sum =
      l.quantity := by
  have hmem : refundedQuantity s.lines l.sourceLineItemId ≤
      ((o.refunds.filter p).map fun r => refundedQuantity r.lines l.sourceLineItemId).sum :=
    List.single_le_sum (by simp) _ (List.mem_map_of_mem (List.mem_filter.mpr ⟨hs, hp⟩))
  have hsub : ((o.refunds.filter p).map fun r => refundedQuantity r.lines l.sourceLineItemId).sum ≤
      o.refundedQuantityOf l.sourceLineItemId :=
    (List.filter_sublist.map _).sum_le_sum (by simp)
  have hle := h.quantity l hl
  omega

lemma Consistent.refundedQuantityOf_eq (h : o.Consistent) (hl : l ∈ o.lineItems) {s : StoreRefund}
    (hs : s ∈ o.refunds) (htakes : l.quantity ≤ refundedQuantity s.lines l.sourceLineItemId) :
    o.refundedQuantityOf l.sourceLineItemId = l.quantity := by
  have hall := h.sum_filter_eq hl hs htakes (p := fun _ => true) rfl
  rw [List.filter_true] at hall
  exact hall

/-- The line in Shopify's answer. -/
lemma find_orderSnapshot (hunique : KeyUnique StoreLine.sourceLineItemId o.lineItems)
    (hl : l ∈ o.lineItems) :
    (o.orderSnapshot.lineItems.find? fun x => decide (x.lineItemId = l.sourceLineItemId)) =
      some { lineItemId := l.sourceLineItemId
             currentQuantity := some (l.quantity - o.refundedQuantityOf l.sourceLineItemId)
             refundableQuantity :=
              some (l.quantity - o.refundedQuantityOf l.sourceLineItemId) } := by
  have hfind : (o.lineItems.find? fun x => decide (x.sourceLineItemId = l.sourceLineItemId)) =
      some l := findRow_of_mem hunique hl
  unfold orderSnapshot
  simp only [List.find?_map, Function.comp_def, hfind, Option.map_some]

/-- **The evidence check succeeds** for an attempt that recorded the whole line with all of the
order's shipping, once a refund took the line and refunds took the shipping. -/
theorem Consistent.covers (h : o.Consistent) (hsettled : o.Settled)
    (hunique : KeyUnique StoreLine.sourceLineItemId o.lineItems) (hl : l ∈ o.lineItems)
    {s : StoreRefund} (hs : s ∈ o.refunds)
    (htakes : l.quantity ≤ refundedQuantity s.lines l.sourceLineItemId)
    {x : OutboundShopifyRefundAttempt} (hcarried : ∀ r ∈ x.shopifyRefundId, s.id = r)
    {line : SubmittedRefundLine} (hline : x.refundLineItemsJson = [line])
    (hrecords : RecordsLine o l line) {refunds : CanonicalRefunds} (hreports : Reports o refunds) :
    canonicalRefundsCoverItem (some x) l.sourceLineItemId l.quantity refunds o.orderSnapshot =
      true := by
  have hsum : ((relevantRefunds (some x) refunds).map fun r =>
      exactRefundedQuantity r l.sourceLineItemId).sum = l.quantity := by
    rw [hreports.relevantRefunds_eq hsettled.amounts, hreports.sum_refundedQuantity
      fun id => ((some x).bind (·.shopifyRefundId)).all fun r => decide (id = r)]
    refine h.sum_filter_eq hl hs htakes ?_
    rw [Option.bind_some, Option.all_eq_true]
    exact fun r hr => decide_eq_true (hcarried r hr)
  have hquantities : quantitiesReconcile line o.orderSnapshot l.sourceLineItemId l.quantity =
      true := by
    unfold quantitiesReconcile
    rw [hrecords.current, hrecords.refundable, find_orderSnapshot hunique hl]
    simp [h.refundedQuantityOf_eq hl hs htakes]
  have hshipping : shippingReconciles line refunds = true := by
    obtain ⟨currency, hcurrency⟩ := Option.isSome_iff_exists.mp hsettled.currency
    unfold shippingReconciles
    rw [hrecords.shipping, hreports.shipping, hrecords.currency, hreports.shippingCurrency,
      hsettled.shipping (List.ne_nil_of_mem hs), hcurrency]
    simp
  unfold canonicalRefundsCoverItem
  rw [hsum]
  simp [hline, hquantities, hshipping]

end StoreOrder

/-! ## Shopify's orders in a run -/

/-- The same order, with no refund taken back. -/
structure StoreOrder.Extends (o o' : StoreOrder) : Prop where
  currency : o'.currency = o.currency
  lineItems : o'.lineItems = o.lineItems
  shippingMinor : o'.shippingMinor = o.shippingMinor
  refunds : o.refunds <+: o'.refunds

lemma StoreOrder.Extends.refl (o : StoreOrder) : o.Extends o := ⟨rfl, rfl, rfl, List.prefix_refl _⟩

/-- Refunded shipping stays refunded. -/
lemma StoreOrder.Extends.refundedShipping_le {o o' : StoreOrder} (h : o.Extends o') :
    o.refundedShipping ≤ o'.refundedShipping :=
  (h.refunds.sublist.map _).sum_le_sum (by simp)

/-- The refund that executes a submission. -/
def CreateShopifyRefundInput.refund (submission : CreateShopifyRefundInput) (refundId : Id)
    (amountMinor : ℕ) : StoreRefund where
  id := refundId
  idempotencyKey := some submission.idempotencyKey
  lines := submission.refundLineItems
  shippingMinor := (submission.shipping.getD 0).toNat
  amountMinor := amountMinor

/-- Where an order after a step comes from. -/
inductive OrderStep (w : World) (a : Action) (o' : StoreOrder) : Prop
  | kept (o : StoreOrder) (ho : o ∈ w.shop) (cancelled : Bool)
      (h : o' = { o with cancelled := cancelled })
  | new (order : ShopifyOrder) (allocations : List VendorAllocation)
      (lines : List VendorAllocationLineItem) (ha : a = .recordOrder order allocations lines o')
      (hnew : o'.refunds = [])
  | merchant (orderId : Id) (refund : StoreRefund) (ha : a = .merchantRefund orderId refund)
  | executed (o : StoreOrder) (ho : o ∈ w.shop) (submission : CreateShopifyRefundInput)
      (refundId : Id) (amountMinor : ℕ)
      (ha : a = .executeSubmission submission refundId amountMinor)
      (hsubmission : submission ∈ w.submissions)
      (haccepts : o.Accepts (submission.refund refundId amountMinor))
      (h : o' = o.execute (submission.refund refundId amountMinor))

namespace World

variable {w w' : World} {a : Action}

lemma step_extends (h : step a w = .ok w') : ∀ o ∈ w.shop, ∃ o' ∈ w'.shop, o.Extends o' := by
  have hexecute {orderId : Id} {refund : StoreRefund}
      (hexecute : w.executeRefund orderId refund = .ok w') :
      ∀ o ∈ w.shop, ∃ o' ∈ w'.shop, o.Extends o' := by
    obtain ⟨-, -, rfl⟩ := executeRefund_ok hexecute
    intro o ho
    refine ⟨_, mem_updateWhere.mpr ⟨o, ho, rfl⟩, ?_⟩
    split
    · exact ⟨rfl, rfl, rfl, List.prefix_append _ _⟩
    · exact .refl o
  cases step_shopChange h with
  | same hshop _ => exact fun o ho => ⟨o, hshop ▸ ho, .refl o⟩
  | record order _ _ shopOrder hrecord =>
      simp only [recordOrder, bind_eq_ok, require_eq_ok, insertRows_eq_ok, pure_eq_ok] at hrecord
      obtain ⟨_, -, _, -, _, -, _, -, orders, -, _, -, allocations, -, rfl⟩ := hrecord
      exact fun o ho => ⟨o, List.mem_append_left _ ho, .refl o⟩
  | merchant _ _ _ hmerchant => exact hexecute hmerchant
  | execute _ _ _ hsubmission =>
      simp only [executeSubmission, bind_eq_ok, require_eq_ok] at hsubmission
      obtain ⟨-, -, hsubmission⟩ := hsubmission
      exact hexecute hsubmission
  | cancel orderId hw' =>
      subst hw'
      intro o ho
      refine ⟨_, mem_updateWhere.mpr ⟨o, ho, rfl⟩, ?_⟩
      split <;> exact ⟨rfl, rfl, rfl, List.prefix_refl _⟩

/-- **The inversion of a step for Shopify's orders.** -/
theorem step_orderStep (h : step a w = .ok w') : ∀ o' ∈ w'.shop, OrderStep w a o' := by
  have hsame (hshop : w'.shop = w.shop) : ∀ o' ∈ w'.shop, OrderStep w a o' :=
    fun o' ho' => .kept o' (hshop ▸ ho') o'.cancelled rfl
  cases a with
  | recordOrder order allocations lines shopOrder =>
      simp only [step, recordOrder, bind_eq_ok, require_eq_ok, insertRows_eq_ok, pure_eq_ok] at h
      obtain ⟨_, ⟨-, hempty, -⟩, _, -, _, -, _, -, orders, -, _, -, _, -, rfl⟩ := h
      intro o' ho'
      rcases List.mem_append.mp ho' with hold | hnew
      · exact .kept o' hold o'.cancelled rfl
      · obtain rfl := List.mem_singleton.mp hnew
        exact .new order allocations lines rfl hempty
  | merchantRefund orderId refund => exact fun o' _ => .merchant orderId refund rfl
  | cancelShopifyOrder orderId =>
      obtain rfl := Except.ok.inj h
      intro o' ho'
      obtain ⟨o, ho, rfl⟩ := mem_updateWhere.mp ho'
      split
      · exact .kept o ho true rfl
      · exact .kept o ho o.cancelled rfl
  | executeSubmission submission refundId amountMinor =>
      simp only [step, executeSubmission, bind_eq_ok, require_eq_ok] at h
      obtain ⟨-, hsubmission, h⟩ := h
      obtain ⟨haccepts, -, rfl⟩ := executeRefund_ok h
      intro o' ho'
      obtain ⟨o, ho, rfl⟩ := mem_updateWhere.mp ho'
      split
      next hid =>
        exact .executed o ho submission refundId amountMinor rfl hsubmission
          (haccepts o ho (of_decide_eq_true hid)) rfl
      next => exact .kept o ho o.cancelled rfl
  | createRequest input requestId itemIds => exact hsame (putDb_shop h)
  | approveItem requestId itemId => exact hsame (putDb_shop h)
  | ingestRefund event now =>
      simp only [step, bind_eq_ok, require_eq_ok] at h
      obtain ⟨-, -, h⟩ := h
      exact hsame (putDb_shop h)
  | updateAllocation allocation =>
      obtain rfl := Except.ok.inj h
      exact hsame rfl
  | startJob i itemId =>
      obtain ⟨-, rfl⟩ := startWorker_ok h
      exact hsame rfl
  | startPreview i input =>
      obtain ⟨-, rfl⟩ := startWorker_ok h
      exact hsame rfl
  | startExecution i input =>
      obtain ⟨-, rfl⟩ := startWorker_ok h
      exact hsame rfl
  | stop i =>
      obtain rfl := Except.ok.inj h
      exact hsame rfl
  | run i reply =>
      obtain ⟨_, _, w₁, _, -, hrun, rfl⟩ | ⟨_, _, w₁, _, -, hrun, rfl⟩ := runWorker_ok h
      · exact hsame (runJob_shop hrun).1
      · exact hsame (runExecution_shop hrun).1

end World

/-! ## What a clean classification establishes -/

/-- Shopify answers a classification about the order as it stands: the order, all its executed
refunds, and the shipping that may still be refunded. -/
structure AnswersFrom (o : StoreOrder) (answers : ShopifyAnswers) : Prop where
  order : ∀ reads ∈ answers.reads, ∀ order ∈ reads.order, order = o.orderSnapshot
  refunds : ∀ reads ∈ answers.reads, ∀ refunds ∈ reads.refunds, ∀ s ∈ o.refunds,
    s.lines ∈ refunds.refunds.map (·.refundLineItems)
  shipping : ∀ preview ∈ answers.previewSuggestedRefund [] none,
    ∀ suggested ∈ preview.suggestedRefund,
      suggested.shippingMaximumRefundableAmount = some o.refundableShipping ∧
        suggested.shippingCurrencyCode = some o.currency

lemma classifyShippingMaximum_ok {preview : PreviewSuggestedRefundResult}
    {orderCurrency code : Option String} {maximum : ℤ}
    (h : classifyShippingMaximum preview orderCurrency = .ok (maximum, code)) :
    ∃ suggested ∈ preview.suggestedRefund,
      suggested.shippingMaximumRefundableAmount = some maximum ∧
        suggested.shippingCurrencyCode = code := by
  simp only [classifyShippingMaximum, bind_eq_ok, require_eq_ok, getOrThrow_eq_ok, pure_eq_ok,
    Prod.mk.injEq] at h
  obtain ⟨_, -, _, hmaximum, _, -, rfl, rfl⟩ := h
  obtain ⟨suggested, hsuggested, hmaximum⟩ := Option.bind_eq_some_iff.mp hmaximum
  exact ⟨suggested, hsuggested, hmaximum, by rw [hsuggested]; rfl⟩

/-- An untouched line has its whole quantity. -/
lemma classifyCanonicalReads_ok {o : StoreOrder} {l : StoreLine}
    (hunique : KeyUnique StoreLine.sourceLineItemId o.lineItems) (hl : l ∈ o.lineItems)
    {answers : ShopifyAnswers} (hfrom : AnswersFrom o answers) {reads : CanonicalReads}
    (hreads : answers.reads = some reads) {requestedQuantity : ℕ} {current refundable : ℤ}
    {locationId : Id}
    (h : classifyCanonicalReads reads l.sourceLineItemId requestedQuantity =
      .ok (current, refundable, locationId)) :
    current = l.quantity ∧ refundable = l.quantity := by
  simp only [classifyCanonicalReads, bind_eq_ok, require_eq_ok, getOrThrow_eq_ok, pure_eq_ok,
    Prod.mk.injEq] at h
  obtain ⟨order, horder, refunds, hrefunds, _, -, _, -, _, hcurrent, _, hrefundable, _, -, _, hzero,
    _, -, _, -, rfl, rfl, -⟩ := h
  have hnone : o.refundedQuantityOf l.sourceLineItemId = 0 := by
    refine List.sum_eq_zero fun q hq => ?_
    obtain ⟨s, hs, rfl⟩ := List.mem_map.mp hq
    obtain ⟨r, hr, hlines⟩ := List.mem_map.mp (hfrom.refunds reads hreads refunds hrefunds s hs)
    rw [← hlines]
    exact hzero r hr
  obtain rfl := hfrom.order reads hreads order horder
  rw [StoreOrder.find_orderSnapshot hunique hl, hnone] at hcurrent hrefundable
  simp only [Option.bind_some, Option.some.injEq] at hcurrent hrefundable
  omega

/-- The line that an attempt records from a context. -/
def CustomerCancellationAutoRefundCleanContext.submittedLine
    (context : CustomerCancellationAutoRefundCleanContext) : SubmittedRefundLine where
  lineItemId := context.sourceLineItemId
  quantity := context.requestedQuantity
  preRefundCurrentQuantity := some context.preRefundCurrentQuantity
  preRefundRefundableQuantity := some context.preRefundRefundableQuantity
  intendedShippingRefundMinor := context.shippingRefundAmount
  intendedShippingRefundCurrencyCode := context.shippingRefundCurrencyCode

/-- A clean context, for the line of the item in its order. -/
lemma classify_answersFrom {db : CancellationDb} {o : StoreOrder} {l : StoreLine}
    (hunique : KeyUnique StoreLine.sourceLineItemId o.lineItems) (hl : l ∈ o.lineItems)
    {answers : ShopifyAnswers} (hfrom : AnswersFrom o answers) {itemId : Id}
    {context : CustomerCancellationAutoRefundCleanContext}
    (hclean : db.classifyCustomerCancellationAutoRefundEligibility itemId answers = .ok context)
    (hline : context.sourceLineItemId = l.sourceLineItemId) :
    context.preRefundCurrentQuantity = l.quantity ∧
      context.preRefundRefundableQuantity = l.quantity ∧
      context.shippingRefundAmount = some o.refundableShipping ∧
      context.shippingRefundCurrencyCode = some o.currency := by
  simp only [CancellationDb.classifyCustomerCancellationAutoRefundEligibility, bind_eq_ok,
    getOrThrow_eq_ok, pure_eq_ok] at hclean
  obtain ⟨item, -, request, -, order, -, allocation, -, line, -, -, -, reads, hreads,
    ⟨current, refundable, locationId⟩, hcanonical, productPreview, -, -, -, shippingPreview,
    hshippingPreview, ⟨maximum, code⟩, hmaximum, preview, -, -, -, -, -, rfl⟩ := hclean
  simp only at hline ⊢
  obtain rfl := hline
  obtain ⟨rfl, rfl⟩ := classifyCanonicalReads_ok hunique hl hfrom hreads hcanonical
  obtain ⟨suggested, hsuggested, hamount, rfl⟩ := classifyShippingMaximum_ok hmaximum
  obtain ⟨hamount', hcode⟩ := hfrom.shipping shippingPreview hshippingPreview suggested hsuggested
  exact ⟨rfl, rfl, hamount.symm.trans hamount', hcode⟩

/-! ## The setting and the condition -/

/-- The item that the worker's next step classifies. -/
def Worker.classifies : Worker → Option Id
  | .job itemId .classify => some itemId
  | .job itemId (.reclassify _) => some itemId
  | _ => none

/-- The item for which the worker's next step classifies before the attempt is recorded. -/
def Worker.classifiesFirst : Worker → Option Id
  | .job itemId .classify => some itemId
  | _ => none

namespace World

variable (w : World)

/-- Shopify's order with the line of the item. -/
def ordersOf (itemId : Id) : List StoreOrder :=
  w.shop.filter fun o =>
    ((w.db.findItem itemId).bind fun i => w.db.sourceLineItemIdOf i.shopifyOrderLineItemId).any
      fun lineItemId => decide (lineItemId ∈ o.lineItems.map (·.sourceLineItemId))

end World

/-- Every refund executes the submission of an item's attempt, and Shopify answers
classifications about the order as it stands. -/
def AsSubmitted (w : World) : Action → Prop
  | .recordOrder _ _ _ shopOrder => (normalizedCurrency (some shopOrder.currency)).isSome
  | .merchantRefund _ _ => False
  | .executeSubmission submission _ _ => ∃ x ∈ w.db.outboundShopifyRefundAttempt,
      x.id = submission.idempotencyKey.attemptId ∧ x.customerCancellationRequestItemId.isSome
  | .run i (.classification answers) => ∀ itemId ∈ (w.worker i).bind Worker.classifies,
      ∀ o ∈ w.ordersOf itemId, AnswersFrom o answers
  | _ => True

/-- No shipping of the order is refunded when an attempt is about to be recorded, and every
executed refund moves money. -/
def ShippingFirst (w : World) : Action → Prop
  | .executeSubmission _ _ amountMinor => 0 < amountMinor
  | .run i (.classification _) => ∀ itemId ∈ (w.worker i).bind Worker.classifiesFirst,
      w.db.attemptOf itemId = none → ∀ o ∈ w.ordersOf itemId, o.refundedShipping = 0
  | _ => True

/-! ## What a run keeps -/

namespace World

variable {w w' : World} {a : Action}

/-- The line is the recorded line of an attempt of the item. -/
def Recorded (w : World) (itemId : Id) (line : SubmittedRefundLine) : Prop :=
  ∃ o ∈ w.shop, ∃ l ∈ o.lineItems, w.ItemAt itemId l.sourceLineItemId l.quantity ∧
    RecordsLine o l line

/-- The amount is all of the shipping of the line's order, or nothing when all is refunded. -/
def ShippingOf (w : World) (lineItemId : Id) (amount : ℤ) : Prop :=
  ∃ o ∈ w.shop, lineItemId ∈ o.lineItems.map (·.sourceLineItemId) ∧
    (amount = o.shippingMinor ∨ amount = 0 ∧ o.refundedShipping = o.shippingMinor)

/-- A sent request is an administrator's, or it is for one line with the order's shipping. -/
def SubmissionOk (w : World) (s : CreateShopifyRefundInput) : Prop :=
  (∃ vendorAllocationId, w.ManualAttempt vendorAllocationId s.idempotencyKey.attemptId) ∨
    ∃ lineItemId quantity, s.refundLineItems = [(lineItemId, quantity)] ∧
      w.ShippingOf lineItemId (s.shipping.getD 0)

/-- What a job holds about the amounts of its refund. -/
def JobHolds (w : World) (itemId : Id) : JobStep → Prop
  | .approve context => (∃ attemptId, w.JobAttempt itemId attemptId) ∨
      w.Recorded itemId context.submittedLine
  | .submit attemptId context => w.ShippingOf context.sourceLineItemId
      ((buildCustomerCancellationRefundSubmission attemptId context).2.shipping.getD 0)
  | _ => True

lemma Recorded.mono (hgrows : Grows w w') (hshop : ∀ o ∈ w.shop, ∃ o' ∈ w'.shop, o.Extends o')
    {itemId : Id} {line : SubmittedRefundLine} (h : w.Recorded itemId line) :
    w'.Recorded itemId line := by
  obtain ⟨o, ho, l, hl, hat, hrecords⟩ := h
  obtain ⟨o', ho', hext⟩ := hshop o ho
  refine ⟨o', ho', l, hext.lineItems ▸ hl, hat.mono hgrows, ?_⟩
  exact ⟨hrecords.current, hrecords.refundable, hext.shippingMinor ▸ hrecords.shipping,
    hext.currency ▸ hrecords.currency⟩

lemma ShippingOf.mono (hstore : StoreMatches w')
    (hshop : ∀ o ∈ w.shop, ∃ o' ∈ w'.shop, o.Extends o') {lineItemId : Id} {amount : ℤ}
    (h : w.ShippingOf lineItemId amount) : w'.ShippingOf lineItemId amount := by
  obtain ⟨o, ho, hline, hamount⟩ := h
  obtain ⟨o', ho', hext⟩ := hshop o ho
  refine ⟨o', ho', hext.lineItems ▸ hline, ?_⟩
  rw [hext.shippingMinor]
  refine hamount.imp_right fun ⟨hzero, hrefunded⟩ => ⟨hzero, ?_⟩
  have hle := hext.refundedShipping_le
  have hmax := (hstore.consistent o' ho').shipping
  rw [hext.shippingMinor] at hmax
  omega

structure ReconcileInvariant (w : World) : Prop where
  own : OwnInvariant w
  settled : ∀ o ∈ w.shop, o.Settled
  submissions : ∀ s ∈ w.submissions, w.SubmissionOk s
  attempts : ∀ r ∈ w.db.attemptRecords, ∀ itemId, r.2.1 = some itemId →
    w.db.Processed itemId ∧ ∃ line, r.2.2 = [line] ∧ w.Recorded itemId line
  workers : ∀ k itemId position, w.worker k = some (.job itemId position) →
    w.JobHolds itemId position

lemma ReconcileInvariant.init : ReconcileInvariant World.init where
  own := OwnInvariant.init
  settled := by simp [World.init]
  submissions := by simp [World.init]
  attempts := by simp [World.init, CancellationDb.attemptRecords, CancellationDb.empty]
  workers := by simp [World.init]

/-- An item's line in Shopify's order. -/
lemma OwnInvariant.orderOf_item (h : OwnInvariant w) {itemId : Id}
    {item : CustomerCancellationRequestItem} (hfind : w.db.findItem itemId = some item) :
    ∃ o ∈ w.ordersOf itemId, ∃ l ∈ o.lineItems,
      w.db.sourceLineItemIdOf item.shopifyOrderLineItemId = some l.sourceLineItemId ∧
      item.requestedQuantity = l.quantity := by
  obtain ⟨hitem, -⟩ := CancellationDb.mem_of_findItem hfind
  obtain ⟨-, lineItemId, hline, hpair⟩ := h.wholeLines item hitem
  rw [← h.store.lines, List.mem_flatMap] at hpair
  obtain ⟨o, ho, hpair⟩ := hpair
  obtain ⟨l, hl, heq⟩ := List.mem_map.mp hpair
  obtain ⟨rfl, hquantity⟩ := Prod.mk.inj heq
  refine ⟨o, List.mem_filter.mpr ⟨ho, ?_⟩, l, hl, hline, hquantity.symm⟩
  rw [hfind, Option.bind_some, hline, Option.any_some, decide_eq_true_eq]
  exact List.mem_map_of_mem hl

/-- **A clean classification**, in terms of the item's line and its order. -/
lemma OwnInvariant.clean_context (h : OwnInvariant w) {itemId : Id} {answers : ShopifyAnswers}
    (hfrom : ∀ o ∈ w.ordersOf itemId, AnswersFrom o answers)
    {context : CustomerCancellationAutoRefundCleanContext}
    (hclean : w.db.classifyCustomerCancellationAutoRefundEligibility itemId answers =
      .ok context) :
    ∃ o ∈ w.ordersOf itemId, ∃ l ∈ o.lineItems,
      w.ItemAt itemId l.sourceLineItemId l.quantity ∧
      context.sourceLineItemId = l.sourceLineItemId ∧
      context.preRefundCurrentQuantity = l.quantity ∧
      context.preRefundRefundableQuantity = l.quantity ∧
      context.shippingRefundAmount = some o.refundableShipping ∧
      context.shippingRefundCurrencyCode = some o.currency := by
  obtain ⟨item, hfind, hline, -⟩ := CancellationDb.classify_context hclean
  obtain ⟨hitem, hid⟩ := CancellationDb.mem_of_findItem hfind
  obtain ⟨o, ho, l, hl, hline', hquantity⟩ := h.orderOf_item hfind
  have hsource : context.sourceLineItemId = l.sourceLineItemId :=
    Option.some.inj (hline.symm.trans hline')
  have hunique := h.store.lineItems_unique (List.mem_filter.mp ho).1
  exact ⟨o, ho, l, hl, ⟨item, hitem, hid, hquantity, hline'⟩, hsource,
    classify_answersFrom hunique hl (hfrom o ho) hclean hsource⟩

lemma runJob_approve {itemId : Id} {position : JobStep} {reply : Reply}
    {context : CustomerCancellationAutoRefundCleanContext}
    (h : w.runJob itemId position reply = .ok (w', some (.approve context))) :
    position = .classify ∧ w' = w ∧ ∃ answers, reply = .classification answers ∧
      w.db.classifyCustomerCancellationAutoRefundEligibility itemId answers = .ok context := by
  cases runJob_next h with
  | clean _ _ hclean =>
      refine ⟨rfl, rfl, ?_⟩
      cases reply with
      | classification answers =>
          refine ⟨answers, rfl, ?_⟩
          simp only [runJob] at h
          split at h
          next hclean' =>
            simp only [Except.ok.injEq, Prod.mk.injEq, Option.some.injEq, JobStep.approve.injEq,
              true_and] at h
            exact h ▸ hclean'
          next => simp at h
      | _ => simp [runJob] at h
  | confirm _ _ _ hconfirm => exact hconfirm.elim

lemma runJob_submit {itemId attemptId : Id} {position : JobStep} {reply : Reply}
    {context : CustomerCancellationAutoRefundCleanContext}
    (h : w.runJob itemId position reply = .ok (w', some (.submit attemptId context))) :
    position = .reclassify attemptId ∧ w' = w ∧ ∃ answers, reply = .classification answers ∧
      w.db.classifyCustomerCancellationAutoRefundEligibility itemId answers = .ok context := by
  cases runJob_next h with
  | cleanAgain _ _ _ hclean =>
      refine ⟨rfl, rfl, ?_⟩
      cases reply with
      | classification answers =>
          refine ⟨answers, rfl, ?_⟩
          simp only [runJob] at h
          split at h
          next hclean' =>
            simp only [Except.ok.injEq, Prod.mk.injEq, Option.some.injEq, JobStep.submit.injEq,
              true_and] at h
            exact h ▸ hclean'
          next => simp at h
      | _ => simp [runJob] at h
  | confirm _ _ _ hconfirm => exact hconfirm.elim

/-! ## The invariant in a run -/

/-- What a job holds after its own step. -/
lemma ReconcileInvariant.jobHolds_next (h : ReconcileInvariant w) {k itemId : Id}
    {position next : JobStep} {reply : Reply} {w₁ : World}
    (hsubmitted : AsSubmitted w (.run k reply)) (hfirst : ShippingFirst w (.run k reply))
    (hworker : w.worker k = some (.job itemId position))
    (hrun : w.runJob itemId position reply = .ok (w₁, some next)) : w₁.JobHolds itemId next := by
  cases next with
  | approve context =>
      obtain ⟨rfl, rfl, answers, rfl, hclean⟩ := runJob_approve hrun
      cases hattempt : w₁.db.attemptOf itemId with
      | some x => exact .inl ⟨x.id, x, mem_of_findRow hattempt, rfl, key_of_findRow hattempt⟩
      | none =>
          obtain ⟨o, ho, l, hl, hat, -, hcurrent, hrefundable, hshipping, hcurrency⟩ :=
            h.own.clean_context (hsubmitted itemId (by simp [hworker, Worker.classifies])) hclean
          have hzero := hfirst itemId (by simp [hworker, Worker.classifiesFirst]) hattempt o ho
          refine .inr ⟨o, (List.mem_filter.mp ho).1, l, hl, hat, ?_, ?_, ?_, hcurrency⟩
          · exact congrArg some hcurrent
          · exact congrArg some hrefundable
          · refine hshipping.trans ?_
            rw [StoreOrder.refundableShipping, hzero]
            simp
  | submit attemptId context =>
      obtain ⟨rfl, rfl, answers, rfl, hclean⟩ := runJob_submit hrun
      obtain ⟨o, ho, l, hl, -, hline, -, -, hshipping, -⟩ :=
        h.own.clean_context (hsubmitted itemId (by simp [hworker, Worker.classifies])) hclean
      have ho' := (List.mem_filter.mp ho).1
      refine ⟨o, ho', hline ▸ List.mem_map_of_mem hl, ?_⟩
      have hle := (h.own.store.consistent o ho').shipping
      -- all of the shipping is left, or none
      have hleft : o.refundedShipping = 0 ∨ o.refundedShipping = o.shippingMinor := by
        by_cases hempty : o.refunds = []
        · exact .inl (by simp [StoreOrder.refundedShipping, hempty])
        · exact .inr ((h.settled o ho').shipping hempty)
      simp only [buildCustomerCancellationRefundSubmission, hshipping, isPositiveMoneyAmount,
        Option.any_some, decide_eq_true_eq, StoreOrder.refundableShipping]
      split
      · simp only [Option.getD_some]
        omega
      · simp only [Option.getD_none, true_and]
        omega
  | _ => trivial

lemma jobHolds_mono (hgrows : Grows w w')
    (hshop : ∀ o ∈ w.shop, ∃ o' ∈ w'.shop, o.Extends o') (hstore : StoreMatches w') {itemId : Id}
    {position : JobStep} (h : w.JobHolds itemId position) : w'.JobHolds itemId position := by
  cases position with
  | approve context =>
      rcases h with ⟨attemptId, hattempt⟩ | hrecorded
      · exact .inl ⟨attemptId, hattempt.mono hgrows⟩
      · exact .inr (hrecorded.mono hgrows hshop)
  | submit attemptId context => exact ShippingOf.mono hstore hshop h
  | _ => trivial

/-- The shipping of a request that Shopify accepts for an item. -/
lemma ReconcileInvariant.shipping_submission (h : ReconcileInvariant w)
    {submission : CreateShopifyRefundInput} (hsubmission : submission ∈ w.submissions)
    (hitem : ∃ x ∈ w.db.outboundShopifyRefundAttempt,
      x.id = submission.idempotencyKey.attemptId ∧ x.customerCancellationRequestItemId.isSome)
    {o : StoreOrder} (ho : o ∈ w.shop)
    (hlines : ∀ l ∈ submission.refundLineItems, l.1 ∈ o.lineItems.map (·.sourceLineItemId)) :
    submission.shipping.getD 0 = o.shippingMinor ∨
      submission.shipping.getD 0 = 0 ∧ o.refundedShipping = o.shippingMinor := by
  obtain ⟨vendorAllocationId, hmanual⟩ | ⟨lineItemId, quantity, heq, o', ho', hline, hamount⟩ :=
    h.submissions submission hsubmission
  · obtain ⟨x, hx, hid, hsome⟩ := hitem
    rw [(h.own.manual_item hmanual hx hid).1] at hsome
    simp at hsome
  · have hline' := hlines (lineItemId, quantity) (heq ▸ List.mem_singleton.mpr rfl)
    obtain rfl := h.own.store.order_eq ho ho' hline' hline
    exact hamount

lemma ReconcileInvariant.settled_step (h : ReconcileInvariant w) (hsubmitted : AsSubmitted w a)
    (hfirst : ShippingFirst w a) (hstep : Orders.step a w = .ok w') :
    ∀ o' ∈ w'.shop, o'.Settled := by
  intro o' ho'
  cases step_orderStep hstep o' ho' with
  | kept o ho cancelled heq =>
      subst heq
      obtain ⟨hshipping, hamounts, hcurrency⟩ := h.settled o ho
      exact ⟨hshipping, hamounts, hcurrency⟩
  | new order allocations lines ha hnew =>
      subst ha
      exact ⟨fun hne => absurd hnew hne, by simp [hnew], hsubmitted⟩
  | merchant _ _ ha =>
      subst ha
      exact hsubmitted.elim
  | executed o ho submission refundId amountMinor ha hsubmission haccepts heq =>
      subst ha heq
      obtain ⟨hshipping, hamounts, hcurrency⟩ := h.settled o ho
      refine ⟨fun _ => ?_, fun s hs => ?_, hcurrency⟩
      · obtain ⟨hlines, -, hmax, -⟩ := haccepts
        have hamount := h.shipping_submission hsubmission hsubmitted ho hlines
        have hexecuted : (o.execute (submission.refund refundId amountMinor)).refundedShipping =
            o.refundedShipping + (submission.shipping.getD 0).toNat := by
          simp [StoreOrder.refundedShipping, StoreOrder.execute, CreateShopifyRefundInput.refund]
        rw [hexecuted] at hmax ⊢
        have hsame : (o.execute (submission.refund refundId amountMinor)).shippingMinor =
          o.shippingMinor := rfl
        rw [hsame]
        omega
      · rcases List.mem_append.mp hs with hold | hnew
        · exact hamounts s hold
        · rw [List.mem_singleton.mp hnew]
          exact hfirst

/-- **The step lemma.** -/
theorem ReconcileInvariant.step (h : ReconcileInvariant w) (hown : OwnRefunds w a)
    (hsubmitted : AsSubmitted w a) (hfirst : ShippingFirst w a)
    (hstep : Orders.step a w = .ok w') : ReconcileInvariant w' := by
  have hown' := h.own.step hown hstep
  have hgrows := h.own.grows hown hstep
  have hshop := step_extends hstep
  refine ⟨hown', h.settled_step hsubmitted hfirst hstep, fun s hs => ?_, fun r hr itemId hitem => ?_,
    fun k itemId position hworker => ?_⟩
  · cases step_submissionStep hstep s hs with
    | old hold =>
        obtain ⟨vendorAllocationId, hmanual⟩ | ⟨lineItemId, quantity, hlines, hshipping⟩ :=
          h.submissions s hold
        · exact .inl ⟨vendorAllocationId, hmanual.mono hgrows⟩
        · exact .inr ⟨lineItemId, quantity, hlines, hshipping.mono hown'.store hshop⟩
    | job k itemId attemptId context hworker heq =>
        have hholds : w.ShippingOf _ _ := h.workers k itemId _ hworker
        rw [heq]
        exact .inr ⟨_, _, rfl, hholds.mono hown'.store hshop⟩
    | execution k input attemptId hworker hkey =>
        have hmanual : w.ManualAttempt _ _ := h.own.workers k _ hworker
        refine .inl ⟨input.vendorAllocationId, ?_⟩
        rw [hkey]
        exact hmanual.mono hgrows
  · rcases h.own.step_attemptRecords hstep r hr (hitem ▸ rfl) with hold |
      ⟨k, itemId', context, hworker, ⟨hnone, item, attemptId, now, hfind, rfl⟩, hprocessed⟩
    · obtain ⟨hprocessed, line, hline, hrecorded⟩ := h.attempts r hold itemId hitem
      exact ⟨hprocessed.moved (itemsWellFormed_step h.own.rows hstep).2, line, hline,
        hrecorded.mono hgrows hshop⟩
    · obtain ⟨-, rfl⟩ := CancellationDb.mem_of_findItem hfind
      obtain rfl : item.id = itemId := Option.some.inj hitem
      refine ⟨hprocessed, context.submittedLine, rfl, ?_⟩
      rcases h.workers k _ _ hworker with ⟨_, x, hx, -, hxitem⟩ | hrecorded
      · exact absurd hxitem (findRow_eq_none.mp hnone x hx)
      · exact hrecorded.mono hgrows hshop
  · cases step_workerStep hstep k with
    | same hsame =>
        exact jobHolds_mono hgrows hshop hown'.store (h.workers k itemId position (hsame ▸ hworker))
    | stopped hstopped => simp [hstopped] at hworker
    | started started hstart hworker' =>
        obtain rfl := Option.some.inj (hworker'.symm.trans hworker)
        cases position <;> first | exact trivial | exact hstart.elim
    | job itemId' position' reply next w₁ ha hworker₀ hrun hw' =>
        subst hw' ha
        rw [putWorker_worker_self, Option.map_eq_some_iff] at hworker
        obtain ⟨next', rfl, hnext⟩ := hworker
        obtain ⟨rfl, rfl⟩ := Worker.job.inj hnext
        have hholds : w₁.JobHolds itemId' next' :=
          h.jobHolds_next hsubmitted hfirst hworker₀ hrun
        cases next' <;> exact hholds
    | execution input position' reply next w₁ ha hworker₀ hrun hw' =>
        subst hw'
        rw [putWorker_worker_self, Option.map_eq_some_iff] at hworker
        obtain ⟨next', -, hnext⟩ := hworker
        simp only [reduceCtorEq] at hnext

end World

/-- The steps of a run whose executed refunds reconcile. -/
def Reconcilable (w : World) (a : Action) : Prop :=
  OwnRefunds w a ∧ AsSubmitted w a ∧ ShippingFirst w a

lemma reconcileInvariant {w : World} (h : ReachableWith Reconcilable w) :
    w.ReconcileInvariant := by
  refine Reachable.invariant (P := World.ReconcileInvariant) ?_ ?_ h
  · rintro _ rfl
    exact World.ReconcileInvariant.init
  · rintro v v' - hv ⟨a, ⟨hown, hsubmitted, hfirst⟩, hstep⟩
    exact hv.step hown hsubmitted hfirst hstep

namespace World

/-- The refund executes the submission of the item's attempt. -/
def RefundOf (w : World) (itemId : Id) (s : StoreRefund) : Prop :=
  ∃ x ∈ w.db.attemptOf itemId, ∃ key ∈ s.idempotencyKey, key.attemptId = x.id

variable {w : World}

/-- The refund of an item, among the refunds of the order of its line. -/
lemma ReconcileInvariant.refundOf (h : ReconcileInvariant w) {i : CustomerCancellationRequestItem}
    (hi : i ∈ w.db.customerCancellationRequestItem) {o : StoreOrder} (ho : o ∈ w.shop)
    {s : StoreRefund} (hs : s ∈ o.refunds) (hof : w.RefundOf i.id s) :
    ∃ x l line, w.db.attemptOf i.id = some x ∧ w.db.Processed i.id ∧ l ∈ o.lineItems ∧
      w.db.sourceLineItemIdOf i.shopifyOrderLineItemId = some l.sourceLineItemId ∧
      i.requestedQuantity = l.quantity ∧
      l.quantity ≤ refundedQuantity s.lines l.sourceLineItemId ∧
      (∀ r ∈ x.shopifyRefundId, s.id = r) ∧ x.refundLineItemsJson = [line] ∧
      RecordsLine o l line := by
  obtain ⟨x, hattempt, key, hkey, hkeyId⟩ := hof
  have hx : x ∈ w.db.outboundShopifyRefundAttempt := mem_of_findRow hattempt
  have hitem : x.customerCancellationRequestItemId = some i.id := key_of_findRow hattempt
  have hsw : s ∈ w.refunds := mem_refunds.mpr ⟨o, ho, hs⟩
  obtain ⟨hprocessed, line, hline, o', ho', l, hl, ⟨j, hj, hji, hquantity, hsource⟩, hrecords⟩ :=
    h.attempts x.record (List.mem_map_of_mem hx) i.id hitem
  obtain rfl := h.own.rows.itemIds.eq hi hj hji.symm
  -- the refund takes the line
  obtain ⟨y, hy, hyid, htakes⟩ := h.own.refunds s hsw key hkey
  obtain rfl := h.own.attemptIds.eq hx hy (hkeyId.symm.trans hyid.symm)
  obtain ⟨lineItemId, quantity, ⟨j, hj, hjj, rfl, hsource'⟩, htakes⟩ := htakes i.id hitem
  obtain rfl := h.own.rows.itemIds.eq hi hj hjj.symm
  obtain rfl := Option.some.inj (hsource'.symm.trans hsource)
  have hpos := (h.own.wholeLines i hi).1
  have hin : l.sourceLineItemId ∈ o.lineItems.map (·.sourceLineItemId) := by
    obtain ⟨p, hp, hpl⟩ := StoreMatches.exists_of_refundedQuantity_pos (hpos.trans_le htakes)
    exact hpl ▸ (h.own.store.consistent o ho).lines s hs p hp
  obtain rfl := h.own.store.order_eq ho ho' hin (List.mem_map_of_mem hl)
  refine ⟨x, l, line, hattempt, hprocessed, hl, hsource, hquantity, hquantity ▸ htakes,
    fun r hr => ?_, hline, hrecords⟩
  have hexplains := h.own.carried x hx r hr
  unfold Explains at hexplains
  rw [hitem] at hexplains
  obtain ⟨j, hj, hji, lineItemId, hsource', hcarried⟩ := hexplains
  obtain rfl := h.own.rows.itemIds.eq hi hj hji.symm
  obtain rfl := Option.some.inj (hsource'.symm.trans hsource)
  exact eq_of_takesLine h.own.store h.own.wholeLines hi hsource hcarried hpos
    ⟨s, hsw, rfl, htakes⟩

end World

/-- **Every executed refund reconciles**, in every run in which the attempts are recorded while no
shipping of their order is refunded, whatever else happened since. -/
theorem executedRefund_reconciles {w : World} (h : ReachableWith Reconcilable w) :
    ∀ i ∈ w.db.customerCancellationRequestItem, i.status ≠ .approved → ∀ o ∈ w.shop,
      ∀ s ∈ o.refunds, w.RefundOf i.id s → ∀ refunds, Reports o refunds → ∀ now,
        (w.db.reconcileCustomerCancellationItemFromCanonicalRefunds i.id (some refunds)
          (some o.orderSnapshot) now).1 = true := by
  intro i hi hstatus o ho s hs hof refunds hreports now
  have hinv := reconcileInvariant h
  obtain ⟨x, l, line, hattempt, ⟨j, hj, hji, hpending⟩, hl, hsource, hquantity, htakes, hcarried,
    hline, hrecords⟩ := hinv.refundOf hi ho hs hof
  obtain rfl := hinv.own.rows.itemIds.eq hi hj hji.symm
  have hcovers := (hinv.own.store.consistent o ho).covers (hinv.settled o ho)
    (hinv.own.store.lineItems_unique ho) hl hs htakes hcarried hline hrecords hreports
  have hfind : w.db.findItem i.id = some i := findRow_of_mem hinv.own.rows.itemIds hi
  unfold CancellationDb.reconcileCustomerCancellationItemFromCanonicalRefunds
  simp only [hfind, hsource, hattempt, hquantity, hcovers, if_true]
  rcases hinv.own.rows.onPath i hi with hp | hp | hp | hp
  · exact absurd hp hpending
  · simp [hp]
  · simp [hp]
  · exact absurd hp hstatus

/-! ## Two lines with shipping -/

instance (o : StoreOrder) (answers : ShopifyAnswers) : Decidable (AnswersFrom o answers) :=
  decidable_of_iff ((∀ reads ∈ answers.reads, ∀ order ∈ reads.order, order = o.orderSnapshot) ∧
    (∀ reads ∈ answers.reads, ∀ refunds ∈ reads.refunds, ∀ s ∈ o.refunds,
      s.lines ∈ refunds.refunds.map (·.refundLineItems)) ∧
    ∀ preview ∈ answers.previewSuggestedRefund [] none, ∀ suggested ∈ preview.suggestedRefund,
      suggested.shippingMaximumRefundableAmount = some o.refundableShipping ∧
        suggested.shippingCurrencyCode = some o.currency)
    ⟨fun ⟨horder, hrefunds, hshipping⟩ => ⟨horder, hrefunds, hshipping⟩,
      fun h => ⟨h.order, h.refunds, h.shipping⟩⟩

instance (w : World) : (a : Action) → Decidable (AsSubmitted w a)
  | .recordOrder _ _ _ shopOrder =>
      inferInstanceAs (Decidable (normalizedCurrency (some shopOrder.currency)).isSome)
  | .merchantRefund _ _ => .isFalse id
  | .executeSubmission submission _ _ =>
      inferInstanceAs (Decidable (∃ x ∈ w.db.outboundShopifyRefundAttempt,
        x.id = submission.idempotencyKey.attemptId ∧ x.customerCancellationRequestItemId.isSome))
  | .run i (.classification answers) =>
      inferInstanceAs (Decidable (∀ itemId ∈ (w.worker i).bind Worker.classifies,
        ∀ o ∈ w.ordersOf itemId, AnswersFrom o answers))
  | .run _ (.local _ _) | .run _ .threw | .run _ (.evidence _ _) | .run _ (.refundCreate _ _)
  | .run _ (.orderSnapshot _) | .run _ (.orderCancel _ _) | .run _ (.jobStatus _)
  | .run _ (.executionFails _) | .run _ .claimShipping | .run _ .noShipping | .run _ (.send _ _)
  | .run _ (.submitted _ _) | .updateAllocation _ | .cancelShopifyOrder _ | .createRequest ..
  | .approveItem .. | .ingestRefund .. | .startJob .. | .startPreview .. | .startExecution ..
  | .stop _ => .isTrue trivial

instance (w : World) : (a : Action) → Decidable (ShippingFirst w a)
  | .executeSubmission _ _ amountMinor => inferInstanceAs (Decidable (0 < amountMinor))
  | .run i (.classification _) =>
      inferInstanceAs (Decidable (∀ itemId ∈ (w.worker i).bind Worker.classifiesFirst,
        w.db.attemptOf itemId = none → ∀ o ∈ w.ordersOf itemId, o.refundedShipping = 0))
  | .run _ (.local _ _) | .run _ .threw | .run _ (.evidence _ _) | .run _ (.refundCreate _ _)
  | .run _ (.orderSnapshot _) | .run _ (.orderCancel _ _) | .run _ (.jobStatus _)
  | .run _ (.executionFails _) | .run _ .claimShipping | .run _ .noShipping | .run _ (.send _ _)
  | .run _ (.submitted _ _) | .recordOrder .. | .merchantRefund .. | .updateAllocation _
  | .cancelShopifyOrder _ | .createRequest .. | .approveItem .. | .ingestRefund .. | .startJob ..
  | .startPreview .. | .startExecution .. | .stop _ => .isTrue trivial

instance (w : World) (a : Action) : Decidable (Reconcilable w a) :=
  inferInstanceAs (Decidable (_ ∧ _ ∧ _))

instance (w : World) (itemId : Id) (s : StoreRefund) : Decidable (w.RefundOf itemId s) :=
  inferInstanceAs (Decidable (∃ x ∈ w.db.attemptOf itemId, ∃ key ∈ s.idempotencyKey,
    key.attemptId = x.id))

namespace ShippedLines

/-- The order of `TwoLines`, with checkout shipping. -/
def shopOrder : StoreOrder := { TwoLines.shopOrder with shippingMinor := 500 }

def recordOrder : Action :=
  .recordOrder TwoLines.order [TwoLines.allocation 21, TwoLines.allocation 22]
    [⟨21, 11, 1⟩, ⟨22, 12, 1⟩] shopOrder

/-- The answers to a classification after the given refunds. -/
def answers (refunds : List StoreRefund) : Reply :=
  .classification (StoreOrder.answers { shopOrder with refunds := refunds }
    [⟨some "OPEN", some "UNSUBMITTED", some 5, [⟨111, some 1⟩, ⟨112, some 1⟩]⟩]
    fun _ _ => [⟨some 7, some 1000, some "bank", some "TRY"⟩])

/-- Worker `i` classifies an item, approves it, classifies it again and submits its refund. -/
def submit (i itemId attemptId : Id) (refunds : List StoreRefund) : List Action :=
  [.startJob i itemId, .run i TwoLines.tick, .run i (answers refunds), .run i (.local 2 attemptId),
    .run i (answers refunds), .run i TwoLines.tick]

/-- The worker records its refund. -/
def recordRefund (i refundId : Id) : List Action :=
  [.run i (.refundCreate (some refundId) false), .run i TwoLines.tick]

/-- The refund of the first line takes the shipping. -/
def firstRefund : StoreRefund := ⟨900, some ⟨21, 51⟩, [(111, 1)], 500, 1000⟩

def firstItemRefunded : List Action :=
  [recordOrder, TwoLines.createRequest] ++ submit 1 41 51 [] ++
  [.executeSubmission { TwoLines.submission 51 111 21 with shipping := some 500 } 900 1000] ++
  recordRefund 1 900

/-- The first item is reconciled. -/
def firstItemReconciled : List Action :=
  let o := { shopOrder with refunds := [firstRefund] }
  firstItemRefunded ++ [.run 1 TwoLines.tick,
    .run 1 (.evidence (some o.canonicalRefunds) (some o.orderSnapshot)), .run 1 TwoLines.tick,
    .stop 1]

def secondItemRefunded : List Action :=
  firstItemReconciled ++ submit 2 42 52 [firstRefund] ++
  [.executeSubmission (TwoLines.submission 52 112 22) 901 1000] ++ recordRefund 2 901

end ShippedLines

/-- The second item's refund is executed as submitted, and the item does not reconcile. -/
theorem secondItem_notReconciled : ∃ w,
    ReachableWith (fun w a => OwnRefunds w a ∧ AsSubmitted w a) w ∧
    ∃ i ∈ w.db.customerCancellationRequestItem, i.status = .approvedForRefund ∧
      ∃ o ∈ w.shop, (∃ s ∈ o.refunds, w.RefundOf i.id s) ∧ Reports o o.canonicalRefunds ∧
        (w.db.reconcileCustomerCancellationItemFromCanonicalRefunds i.id
          (some o.canonicalRefunds) (some o.orderSnapshot) 9).1 = false := by
  have hrun : Succeeds (runActions (guarded (fun w a => OwnRefunds w a ∧ AsSubmitted w a) "" step)
      ShippedLines.secondItemRefunded World.init) fun w =>
      ∃ i ∈ w.db.customerCancellationRequestItem, i.status = .approvedForRefund ∧
        ∃ o ∈ w.shop, (∃ s ∈ o.refunds, w.RefundOf i.id s) ∧
          (w.db.reconcileCustomerCancellationItemFromCanonicalRefunds i.id
            (some o.canonicalRefunds) (some o.orderSnapshot) 9).1 = false := by
    decide +kernel
  obtain ⟨w, hw, i, hi, hstatus, o, ho, hof, hfalse⟩ := succeeds_iff.mp hrun
  have hreach : ReachableWith (fun w a => OwnRefunds w a ∧ AsSubmitted w a) w :=
    reachable_of_runGuarded (.start rfl) hw
  have hown : ReachableWith OwnRefunds w :=
    hreach.mono (fun _ hinit => hinit) fun _ _ ⟨a, hok, hstep⟩ => ⟨a, hok.1, hstep⟩
  have hconsistent := (ownInvariant hown).store.consistent o ho
  exact ⟨w, hreach, i, hi, hstatus, o, ho, hof, StoreOrder.reports_canonicalRefunds hconsistent,
    hfalse⟩

theorem executedRefund_reconciles_firstItem : ∃ w,
    runActions (guarded Reconcilable "" step) ShippedLines.firstItemRefunded World.init = .ok w ∧
      ∃ i ∈ w.db.customerCancellationRequestItem, i.status = .approvedForRefund ∧
        ∃ o ∈ w.shop, (∃ s ∈ o.refunds, w.RefundOf i.id s) ∧
          (w.db.reconcileCustomerCancellationItemFromCanonicalRefunds i.id
            (some o.canonicalRefunds) (some o.orderSnapshot) 9).1 = true := by
  have hrun : Succeeds (runActions (guarded Reconcilable "" step) ShippedLines.firstItemRefunded
      World.init) fun w => ∃ i ∈ w.db.customerCancellationRequestItem,
        i.status = .approvedForRefund ∧ ∃ o ∈ w.shop, ∃ s ∈ o.refunds, w.RefundOf i.id s := by
    decide +kernel
  obtain ⟨w, hw, i, hi, hstatus, o, ho, s, hs, hof⟩ := succeeds_iff.mp hrun
  have hreach : ReachableWith Reconcilable w := reachable_of_runGuarded (.start rfl) hw
  have hconsistent := (reconcileInvariant hreach).own.store.consistent o ho
  exact ⟨w, hw, i, hi, hstatus, o, ho, ⟨s, hs, hof⟩, executedRefund_reconciles hreach i hi
    (by simp [hstatus]) o ho s hs hof _ (StoreOrder.reports_canonicalRefunds hconsistent) 9⟩

end VendorDashboard.Orders

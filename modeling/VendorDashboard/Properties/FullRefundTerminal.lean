import VendorDashboard.Orders.AllocationFullRefundTerminal
import VendorDashboard.Properties.RefundAccounts

/-!
# The full-refund terminal decision is exact

`Qualifies` says when an allocation is refunded in full, without the walk that decides it, and
`verify_eq_ok` that the walk succeeds exactly then.  The conditions are about sets of refunds, lines
and fulfillment orders, so whether an allocation qualifies does not depend on their order
(`Permuted.qualifies`); which check refuses it does.
-/

namespace VendorDashboard.Orders

open Decimal Reordering Shopify Table Text Transaction

variable {toUpperCase : String → String}

/-! ## Identifiers -/

/-- An identifier without surrounding blanks, empty when it is missing. -/
def trimmed (value : Option String) : String := (value.map trim).getD ""

lemma normalizeRequired_eq_some {value : Option String} {s : String} :
    normalizeRequired value = some s ↔ trimmed value ≠ "" ∧ s = trimmed value := by
  unfold normalizeRequired trimmed
  simp only
  split
  · rename_i hempty
    exact ⟨fun h => (by cases h), fun h => absurd hempty h.1⟩
  · rename_i hne
    exact ⟨fun h => ⟨hne, (Option.some.inj h).symm⟩, fun h => congrArg some h.2.symm⟩

/-- Two identifiers, the second of which is the last segment of the first. -/
def Names (gid id : Option String) : Prop :=
  trimmed gid ≠ "" ∧ trimmed id ≠ "" ∧ lastSegment (trimmed gid) = trimmed id

lemma normalizeStatus_eq_some {value : Option String} {s : String} :
    normalizeStatus toUpperCase value = some s ↔
      trimmed value ≠ "" ∧ s = toUpperCase (trimmed value) := by
  unfold normalizeStatus
  rw [Option.map_eq_some_iff]
  constructor
  · rintro ⟨word, hword, rfl⟩
    obtain ⟨hne, rfl⟩ := normalizeRequired_eq_some.mp hword
    exact ⟨hne, rfl⟩
  · rintro ⟨hne, rfl⟩
    exact ⟨_, normalizeRequired_eq_some.mpr ⟨hne, rfl⟩, rfl⟩

/-! ## The lines of the order -/

/-- The index after one more line. -/
def CanonicalIndex.add (st : CanonicalIndex) (line : CanonicalOrderLine) : CanonicalIndex where
  canonicalLineGids := st.canonicalLineGids ++ [trim line.lineItemGid]
  canonicalBySourceId := st.canonicalBySourceId ++ [(trim line.sourceLineItemId, line)]

lemma indexCanonicalLine_eq_ok {st st' : CanonicalIndex} {line : CanonicalOrderLine} :
    indexCanonicalLine st line = .ok st' ↔
      (Names (some line.lineItemGid) (some line.sourceLineItemId) ∧
        trim line.lineItemGid ∉ st.canonicalLineGids) ∧ st' = st.add line := by
  unfold indexCanonicalLine
  simp only [bind_eq_ok, getOrThrow_eq_ok, normalizeRequired_eq_some, require_eq_ok, pure_eq_ok,
    exists_and_left, exists_const, Names]
  constructor
  · rintro ⟨_, ⟨hsource, rfl⟩, _, ⟨hgid, rfl⟩, hsegment, hnew, rfl⟩
    exact ⟨⟨⟨hgid, hsource, hsegment⟩, hnew⟩, rfl⟩
  · rintro ⟨⟨⟨hgid, hsource, hsegment⟩, hnew⟩, rfl⟩
    exact ⟨_, ⟨hsource, rfl⟩, _, ⟨hgid, rfl⟩, hsegment, hnew, rfl⟩

/-- The lines of an order under their source identifiers. -/
def linesBySourceId (lines : List CanonicalOrderLine) : List (String × CanonicalOrderLine) :=
  lines.map fun line => (trim line.sourceLineItemId, line)

/-- The index of lines with different identifiers. -/
lemma indexCanonicalLines_eq_ok {lines : List CanonicalOrderLine} {st : CanonicalIndex} :
    lines.foldlM indexCanonicalLine ⟨[], []⟩ = .ok st ↔
      (∀ line ∈ lines, Names (some line.lineItemGid) (some line.sourceLineItemId)) ∧
      lines.Pairwise (fun a b => trim b.lineItemGid ≠ trim a.lineItemGid) ∧
      st = ⟨lines.map fun line => trim line.lineItemGid, linesBySourceId lines⟩ := by
  have hfold : ∀ (lines : List CanonicalOrderLine) (st : CanonicalIndex),
      lines.foldl CanonicalIndex.add st =
        ⟨st.canonicalLineGids ++ lines.map fun line => trim line.lineItemGid,
          st.canonicalBySourceId ++ linesBySourceId lines⟩ := by
    intro lines
    induction lines with
    | nil => intro st; simp [linesBySourceId]
    | cons line lines ih =>
        intro st
        rw [List.foldl_cons, ih]
        simp [CanonicalIndex.add, linesBySourceId]
  rw [foldlM_guarded (f := CanonicalIndex.add)
    (R := fun a b => trim b.lineItemGid ≠ trim a.lineItemGid)
    (fun _ _ _ => indexCanonicalLine_eq_ok), hfold]
  · simp
  · intro st a b _
    simp only [CanonicalIndex.add, List.mem_append, List.mem_singleton, not_or, and_assoc, ne_eq]

/-! ## The lines of the allocation -/

/-- The identifier that Shopify has for a line of an allocation. -/
def sourceIdOf (line : TerminalAllocationLine) : String :=
  trimmed (line.shopifyOrderLineItem.map (·.sourceLineItemId))

/-- The line of the order that a line of the allocation is, when there is exactly one. -/
def ownedLine (lines : List CanonicalOrderLine) (line : TerminalAllocationLine) :
    Option CanonicalOrderLine :=
  onlyMatch (linesBySourceId lines) (sourceIdOf line)

lemma ownedLine_eq_some {lines : List CanonicalOrderLine} {line : TerminalAllocationLine}
    {c : CanonicalOrderLine} : ownedLine lines line = some c ↔
      lines.filter (fun l => trim l.sourceLineItemId = sourceIdOf line) = [c] := by
  have hfilter : (linesBySourceId lines).filter (fun entry => entry.1 = sourceIdOf line) =
      linesBySourceId (lines.filter fun l => trim l.sourceLineItemId = sourceIdOf line) := by
    unfold linesBySourceId
    rw [List.filter_map]
    rfl
  unfold ownedLine onlyMatch
  rw [hfilter]
  generalize lines.filter (fun l => trim l.sourceLineItemId = sourceIdOf line) = found
  cases found with
  | nil => simp [linesBySourceId]
  | cons l found =>
      cases found with
      | nil => simp [linesBySourceId]
      | cons l' found => simp [linesBySourceId]

/-- A line of an allocation that names one line of the order. -/
structure IdentifiedLine (lines : List CanonicalOrderLine) (line : TerminalAllocationLine) :
    Prop where
  id : trim line.id ≠ ""
  shopifyLineItemId : trim line.shopifyLineItemId ≠ ""
  related : trimmed (line.shopifyOrderLineItem.map (·.id)) = trim line.shopifyLineItemId
  sourceLineItemId : sourceIdOf line ≠ ""
  quantity : isPositiveInteger line.quantity
  owned : (ownedLine lines line).isSome

/-- The lines resolved after one more. -/
def ResolvedLines.add (lines : List CanonicalOrderLine) (st : ResolvedLines)
    (line : TerminalAllocationLine) : ResolvedLines where
  resolvedAllocationLines :=
    st.resolvedAllocationLines ++ ((ownedLine lines line).map (Prod.mk line)).toList
  claimedCanonicalGids :=
    st.claimedCanonicalGids ++ ((ownedLine lines line).map (·.lineItemGid)).toList
  allocationLineIds := st.allocationLineIds ++ [trim line.id]

lemma resolveAllocationLine_eq_ok {lines : List CanonicalOrderLine} {st st' : ResolvedLines}
    {line : TerminalAllocationLine} :
    resolveAllocationLine (linesBySourceId lines) st line = .ok st' ↔
      (IdentifiedLine lines line ∧ trim line.id ∉ st.allocationLineIds ∧
        ∀ c, ownedLine lines line = some c → c.lineItemGid ∉ st.claimedCanonicalGids) ∧
      st' = st.add lines line := by
  unfold resolveAllocationLine
  simp only [bind_eq_ok, getOrThrow_eq_ok, normalizeRequired_eq_some, require_eq_ok, pure_eq_ok,
    exists_and_left, exists_const]
  constructor
  · rintro ⟨_, ⟨hid, rfl⟩, hnew, _, ⟨hlocal, rfl⟩, hrelated, _, ⟨hsource, rfl⟩, hquantity, c, hc,
      hclaimed, rfl⟩
    obtain ⟨-, hrelated⟩ := normalizeRequired_eq_some.mp hrelated.symm
    have howned : ownedLine lines line = some c := hc
    refine ⟨⟨⟨hid, hlocal, hrelated.symm, hsource, hquantity, ?_⟩, hnew, ?_⟩, ?_⟩
    · rw [howned]
      rfl
    · intro d hd
      obtain rfl := Option.some.inj (howned.symm.trans hd)
      exact hclaimed
    · unfold ResolvedLines.add
      rw [howned]
      rfl
  · rintro ⟨⟨⟨hid, hlocal, hrelated, hsource, hquantity, howned⟩, hnew, hclaimed⟩, rfl⟩
    obtain ⟨c, hc⟩ := Option.isSome_iff_exists.mp howned
    refine ⟨_, ⟨hid, rfl⟩, hnew, _, ⟨hlocal, rfl⟩, ?_, _, ⟨hsource, rfl⟩, hquantity, c, hc,
      hclaimed c hc, ?_⟩
    · exact (normalizeRequired_eq_some.mpr ⟨hrelated.symm ▸ hlocal, hrelated.symm⟩).symm
    · unfold ResolvedLines.add
      rw [hc]
      rfl

/-- Two lines of an allocation that differ and are different lines of the order. -/
def SeparateLines (lines : List CanonicalOrderLine) (a b : TerminalAllocationLine) : Prop :=
  trim b.id ≠ trim a.id ∧ ∀ c d, ownedLine lines a = some c → ownedLine lines b = some d →
    d.lineItemGid ≠ c.lineItemGid

/-- The lines of an allocation with the lines of the order that they are. -/
def resolvedLines (lines : List CanonicalOrderLine) (owned : List TerminalAllocationLine) :
    List (TerminalAllocationLine × CanonicalOrderLine) :=
  owned.filterMap fun line => (ownedLine lines line).map (Prod.mk line)

lemma resolveAllocationLines_eq_ok {lines : List CanonicalOrderLine}
    {owned : List TerminalAllocationLine} {st : ResolvedLines} :
    owned.foldlM (resolveAllocationLine (linesBySourceId lines)) ⟨[], [], []⟩ = .ok st ↔
      (∀ line ∈ owned, IdentifiedLine lines line) ∧ owned.Pairwise (SeparateLines lines) ∧
      st = ⟨resolvedLines lines owned, (resolvedLines lines owned).map (·.2.lineItemGid),
        owned.map fun line => trim line.id⟩ := by
  have hfold : ∀ (owned : List TerminalAllocationLine) (st : ResolvedLines),
      owned.foldl (ResolvedLines.add lines) st =
        ⟨st.resolvedAllocationLines ++ resolvedLines lines owned,
          st.claimedCanonicalGids ++ (resolvedLines lines owned).map (·.2.lineItemGid),
          st.allocationLineIds ++ owned.map fun line => trim line.id⟩ := by
    intro owned
    induction owned with
    | nil => intro st; simp [resolvedLines]
    | cons line owned ih =>
        intro st
        rw [List.foldl_cons, ih]
        cases hline : ownedLine lines line <;> simp [ResolvedLines.add, resolvedLines, hline]
  rw [foldlM_guarded (f := ResolvedLines.add lines) (R := SeparateLines lines)
    (fun _ _ _ => resolveAllocationLine_eq_ok), hfold]
  · simp
  · rintro st a b ⟨ha, -, -⟩
    obtain ⟨c, hc⟩ := Option.isSome_iff_exists.mp ha.owned
    simp only [ResolvedLines.add, SeparateLines, hc, List.mem_append, List.mem_singleton, not_or,
      Option.map_some, Option.toList_some, Option.some.injEq]
    constructor
    · rintro ⟨hb, ⟨hid, hne⟩, hclaimed⟩
      exact ⟨⟨hb, hid, fun d hd => (hclaimed d hd).1⟩, hne,
        fun _ d hcd hd => hcd ▸ (hclaimed d hd).2⟩
    · rintro ⟨⟨hb, hid, hclaimed⟩, hne, hseparate⟩
      exact ⟨hb, ⟨hid, hne⟩, fun d hd => ⟨hclaimed d hd, hseparate c d rfl hd⟩⟩

/-! ## The refunds -/

variable (toUpperCase)

/-- A transaction with an identifier, whose kind and status are known. -/
structure KnownTransaction (t : Shopify.RefundTransaction) : Prop where
  transactionGid : trim t.transactionGid ≠ ""
  kind : trimmed t.kind ≠ ""
  status : trimmed t.status ≠ ""
  supportedKind : toUpperCase (trimmed t.kind) ∈ SUPPORTED_REFUND_TRANSACTION_KINDS
  supportedStatus : toUpperCase (trimmed t.status) ∈ SUPPORTED_REFUND_TRANSACTION_STATUSES

structure IdentifiedRefundLine (line : RefundLineItem) : Prop where
  refundLineItemGid : trim line.refundLineItemGid ≠ ""
  lineItem : Names line.lineItemGid line.sourceLineItemId
  quantity : isPositiveInteger line.quantity

/-- Refund lines with different identifiers. -/
def SeparateRefundLines (a b : RefundLineItem) : Prop :=
  trim b.refundLineItemGid ≠ trim a.refundLineItemGid

structure IdentifiedRefund (r : RefundSnapshot) : Prop where
  refund : Names (some r.refundGid) (some r.sourceShopifyRefundId)
  lineItemsComplete : r.lineItemPaginationComplete = true
  transactionsComplete : r.transactionPaginationComplete = true
  transactions : ∀ t ∈ r.transactions, KnownTransaction toUpperCase t
  refundLines : ∀ line ∈ r.refundLineItems, IdentifiedRefundLine line
  separate : r.refundLineItems.Pairwise SeparateRefundLines

/-- Refunds without a common refund line. -/
def SeparateRefunds (a b : RefundSnapshot) : Prop :=
  ∀ line ∈ b.refundLineItems, ∀ other ∈ a.refundLineItems, SeparateRefundLines other line

variable {toUpperCase}

lemma checkRefundTransaction_eq_ok {t : Shopify.RefundTransaction} {u : PUnit} :
    checkRefundTransaction toUpperCase t = .ok u ↔ KnownTransaction toUpperCase t := by
  unfold checkRefundTransaction
  simp only [bind_eq_ok, getOrThrow_eq_ok, normalizeRequired_eq_some, normalizeStatus_eq_some,
    require_eq_ok]
  constructor
  · rintro ⟨_, ⟨hgid, rfl⟩, _, ⟨hkind, rfl⟩, _, ⟨hstatus, rfl⟩, hkinds, hstatuses⟩
    exact ⟨hgid, hkind, hstatus, hkinds, hstatuses⟩
  · rintro ⟨hgid, hkind, hstatus, hkinds, hstatuses⟩
    exact ⟨_, ⟨hgid, rfl⟩, _, ⟨hkind, rfl⟩, _, ⟨hstatus, rfl⟩, hkinds, hstatuses⟩

lemma checkRefundLine_eq_ok {seen seen' : List String} {line : RefundLineItem} :
    checkRefundLine seen line = .ok seen' ↔
      (IdentifiedRefundLine line ∧ trim line.refundLineItemGid ∉ seen) ∧
        seen' = seen ++ [trim line.refundLineItemGid] := by
  unfold checkRefundLine
  simp only [bind_eq_ok, getOrThrow_eq_ok, normalizeRequired_eq_some, require_eq_ok, pure_eq_ok,
    exists_and_left, exists_const]
  constructor
  · rintro ⟨_, ⟨hgid, rfl⟩, _, ⟨hline, rfl⟩, _, ⟨hsource, rfl⟩, hsegment, hnew, hquantity, rfl⟩
    exact ⟨⟨⟨hgid, ⟨hline, hsource, hsegment⟩, hquantity⟩, hnew⟩, rfl⟩
  · rintro ⟨⟨⟨hgid, ⟨hline, hsource, hsegment⟩, hquantity⟩, hnew⟩, rfl⟩
    exact ⟨_, ⟨hgid, rfl⟩, _, ⟨hline, rfl⟩, _, ⟨hsource, rfl⟩, hsegment, hnew, hquantity, rfl⟩

/-- The identifiers of the lines of a refund. -/
def refundLineGids (r : RefundSnapshot) : List String :=
  r.refundLineItems.map fun line => trim line.refundLineItemGid

lemma checkRefundLines_eq_ok {lines : List RefundLineItem} {seen seen' : List String} :
    lines.foldlM checkRefundLine seen = .ok seen' ↔
      (∀ line ∈ lines, IdentifiedRefundLine line ∧ trim line.refundLineItemGid ∉ seen) ∧
      lines.Pairwise SeparateRefundLines ∧
      seen' = seen ++ lines.map fun line => trim line.refundLineItemGid := by
  have hfold : ∀ (lines : List RefundLineItem) (seen : List String),
      lines.foldl (fun seen line => seen ++ [trim line.refundLineItemGid]) seen =
        seen ++ lines.map fun line => trim line.refundLineItemGid := by
    intro lines
    induction lines with
    | nil => intro seen; simp
    | cons line lines ih =>
        intro seen
        rw [List.foldl_cons, ih]
        simp
  rw [foldlM_guarded (f := fun seen line => seen ++ [trim line.refundLineItemGid])
    (R := SeparateRefundLines) (fun _ _ _ => checkRefundLine_eq_ok), hfold]
  intro seen a b _
  simp only [SeparateRefundLines, List.mem_append, List.mem_singleton, not_or, and_assoc, ne_eq]

lemma checkRefund_eq_ok {seen seen' : List String} {r : RefundSnapshot} :
    checkRefund toUpperCase seen r = .ok seen' ↔
      (IdentifiedRefund toUpperCase r ∧ ∀ gid ∈ refundLineGids r, gid ∉ seen) ∧
        seen' = seen ++ refundLineGids r := by
  unfold checkRefund
  simp only [bind_eq_ok, getOrThrow_eq_ok, normalizeRequired_eq_some, require_eq_ok,
    exists_and_left, exists_const, forM_eq_ok, checkRefundTransaction_eq_ok,
    checkRefundLines_eq_ok]
  have hgids : (∀ gid ∈ refundLineGids r, gid ∉ seen) ↔
      ∀ line ∈ r.refundLineItems, trim line.refundLineItemGid ∉ seen := by
    unfold refundLineGids
    rw [List.forall_mem_map]
  rw [hgids]
  constructor
  · rintro ⟨_, ⟨hgid, rfl⟩, _, ⟨hid, rfl⟩, hsegment, hlinesComplete, hcomplete, htransactions,
      hlines, hseparate, rfl⟩
    exact ⟨⟨⟨⟨hgid, hid, hsegment⟩, hlinesComplete, hcomplete, htransactions,
      fun line hline => (hlines line hline).1, hseparate⟩, fun line hline => (hlines line hline).2⟩,
      rfl⟩
  · rintro ⟨⟨⟨⟨hgid, hid, hsegment⟩, hlinesComplete, hcomplete, htransactions, hlines, hseparate⟩,
      hnew⟩, rfl⟩
    exact ⟨_, ⟨hgid, rfl⟩, _, ⟨hid, rfl⟩, hsegment, hlinesComplete, hcomplete, htransactions,
      fun line hline => ⟨hlines line hline, hnew line hline⟩, hseparate, rfl⟩

/-- The lines of a refund are new when they are neither among those seen nor of the last refund. -/
lemma notMem_append_refundLineGids {seen : List String} {a b : RefundSnapshot} :
    (∀ gid ∈ refundLineGids b, gid ∉ seen ++ refundLineGids a) ↔
      (∀ gid ∈ refundLineGids b, gid ∉ seen) ∧ SeparateRefunds a b := by
  simp only [refundLineGids, SeparateRefunds, SeparateRefundLines, List.mem_append, not_or,
    List.forall_mem_map]
  constructor
  · intro h
    refine ⟨fun line hline => (h line hline).1, fun line hline other hother heq => ?_⟩
    exact (h line hline).2 (List.mem_map.mpr ⟨other, hother, heq.symm⟩)
  · rintro ⟨hseen, hseparate⟩ line hline
    refine ⟨hseen line hline, fun hmem => ?_⟩
    obtain ⟨other, hother, heq⟩ := List.mem_map.mp hmem
    exact hseparate line hline other hother heq.symm

lemma checkRefunds_eq_ok {refunds : List RefundSnapshot} {seen : List String} :
    refunds.foldlM (checkRefund toUpperCase) [] = .ok seen ↔
      (∀ r ∈ refunds, IdentifiedRefund toUpperCase r) ∧ refunds.Pairwise SeparateRefunds ∧
        seen = refunds.foldl (fun seen r => seen ++ refundLineGids r) [] := by
  rw [foldlM_guarded (f := fun seen r => seen ++ refundLineGids r) (R := SeparateRefunds)
    fun _ _ _ => checkRefund_eq_ok]
  · simp only [List.not_mem_nil, not_false_eq_true, implies_true, and_true]
  · intro seen a b _
    rw [notMem_append_refundLineGids, and_assoc]

/-! ## The fulfillment orders -/

variable (toUpperCase)

/-- A line of a fulfillment order, in a known state when it is for a claimed line. -/
structure SupportedFulfillment (claimed : List String) (order : CanonicalFulfillmentOrder)
    (line : CanonicalFulfillmentLine) : Prop where
  id : trim line.id ≠ ""
  lineItemId : trimmed line.lineItemId ≠ ""
  claimed : trimmed line.lineItemId ∈ claimed → trim order.id ≠ "" ∧ trimmed order.status ≠ "" ∧
    toUpperCase (trimmed order.status) ∈ SUPPORTED_FULFILLMENT_ORDER_STATUSES ∧
    (toUpperCase (trimmed order.status) = "OPEN" → isNonNegativeInteger line.remainingQuantity)

variable {toUpperCase}

lemma checkFulfillmentLine_eq_ok {claimed : List String} {order : CanonicalFulfillmentOrder}
    {line : CanonicalFulfillmentLine} {u : PUnit} :
    checkFulfillmentLine toUpperCase claimed order line = .ok u ↔
      SupportedFulfillment toUpperCase claimed order line := by
  unfold checkFulfillmentLine
  simp only [bind_eq_ok, getOrThrow_eq_ok, normalizeRequired_eq_some]
  constructor
  · rintro ⟨_, ⟨hid, rfl⟩, _, ⟨hline, rfl⟩, hcheck⟩
    refine ⟨hid, hline, fun hclaimed => ?_⟩
    rw [if_pos hclaimed] at hcheck
    simp only [bind_eq_ok, getOrThrow_eq_ok, normalizeRequired_eq_some, normalizeStatus_eq_some,
      require_eq_ok, exists_and_left, exists_const] at hcheck
    obtain ⟨_, ⟨horder, rfl⟩, _, ⟨hstatus, rfl⟩, hsupported, hopen⟩ := hcheck
    exact ⟨horder, hstatus, hsupported, hopen⟩
  · rintro ⟨hid, hline, hclaimed⟩
    refine ⟨_, ⟨hid, rfl⟩, _, ⟨hline, rfl⟩, ?_⟩
    split
    · rename_i hmem
      obtain ⟨horder, hstatus, hsupported, hopen⟩ := hclaimed hmem
      simp only [bind_eq_ok, getOrThrow_eq_ok, normalizeRequired_eq_some, normalizeStatus_eq_some,
        require_eq_ok, exists_and_left, exists_const]
      exact ⟨_, ⟨horder, rfl⟩, _, ⟨hstatus, rfl⟩, hsupported, hopen⟩
    · rfl

lemma checkFulfillmentOrder_eq_ok {claimed : List String} {order : CanonicalFulfillmentOrder}
    {u : PUnit} : checkFulfillmentOrder toUpperCase claimed order = .ok u ↔
      ∀ line ∈ order.lineItems, SupportedFulfillment toUpperCase claimed order line := by
  unfold checkFulfillmentOrder
  simp only [forM_eq_ok, checkFulfillmentLine_eq_ok]

/-! ## The refunds that support a line -/

/-- Monetary evidence verifies a refund. -/
def VerifiedRefund (evidence : RefundMonetaryEvidence) (r : RefundSnapshot) : Prop :=
  ∃ item ∈ evidence.refunds, item.sourceShopifyRefundId = r.sourceShopifyRefundId ∧
    IsVerifiedRefund item

instance (evidence : RefundMonetaryEvidence) (r : RefundSnapshot) :
    Decidable (VerifiedRefund evidence r) :=
  inferInstanceAs (Decidable (∃ item ∈ evidence.refunds, _ ∧ _))

variable (toUpperCase)

def IsSuccessfulTransaction (t : Shopify.RefundTransaction) : Prop :=
  toUpperCase (trimmed t.kind) = "REFUND" ∧ toUpperCase (trimmed t.status) = "SUCCESS"

instance (t : Shopify.RefundTransaction) : Decidable (IsSuccessfulTransaction toUpperCase t) :=
  inferInstanceAs (Decidable (_ ∧ _))

/-- The identifiers of the successful refunds, each once. -/
def successfulTransactions (r : RefundSnapshot) : List String :=
  r.transactions.foldl (fun gids t =>
    if IsSuccessfulTransaction toUpperCase t ∧ trim t.transactionGid ∉ gids then
      gids ++ [trim t.transactionGid] else gids) []

variable {toUpperCase}

lemma collectSuccessfulTransactions_eq_ok {r : RefundSnapshot}
    (hknown : ∀ t ∈ r.transactions, KnownTransaction toUpperCase t) {gids : List String} :
    r.transactions.foldlM (collectSuccessfulTransaction toUpperCase) [] = .ok gids ↔
      gids = successfulTransactions toUpperCase r := by
  have hstep : ∀ t ∈ r.transactions, ∀ gids gids' : List String,
      collectSuccessfulTransaction toUpperCase gids t = .ok gids' ↔
        (trim t.transactionGid ≠ "" ∧ trimmed t.kind ≠ "" ∧ trimmed t.status ≠ "") ∧
          gids' = if IsSuccessfulTransaction toUpperCase t ∧ trim t.transactionGid ∉ gids then
            gids ++ [trim t.transactionGid] else gids := by
    intro t _ gids gids'
    unfold collectSuccessfulTransaction IsSuccessfulTransaction
    simp only [bind_eq_ok, getOrThrow_eq_ok, normalizeRequired_eq_some, normalizeStatus_eq_some,
      pure_eq_ok, and_assoc]
    constructor
    · rintro ⟨_, hgid, rfl, _, hkind, rfl, _, hstatus, rfl, rfl⟩
      exact ⟨hgid, hkind, hstatus, rfl⟩
    · rintro ⟨hgid, hkind, hstatus, rfl⟩
      exact ⟨_, hgid, rfl, _, hkind, rfl, _, hstatus, rfl, rfl⟩
  rw [foldlM_checked hstep]
  exact ⟨fun h => h.2, fun h => ⟨fun t ht => ⟨(hknown t ht).transactionGid, (hknown t ht).kind,
    (hknown t ht).status⟩, h⟩⟩

/-- What is listed are the identifiers of the successful refunds. -/
lemma successfulTransactions_spec (r : RefundSnapshot) :
    (successfulTransactions toUpperCase r).Nodup ∧
      ∀ gid, gid ∈ successfulTransactions toUpperCase r ↔
        ∃ t ∈ r.transactions, IsSuccessfulTransaction toUpperCase t ∧
          trim t.transactionGid = gid := by
  unfold successfulTransactions
  induction r.transactions using List.reverseRecOn with
  | nil => simp
  | append_singleton ts t ih =>
      obtain ⟨hnodup, hmem⟩ := ih
      rw [List.foldl_append, List.foldl_cons, List.foldl_nil]
      simp only [exists_mem_concat]
      split
      · rename_i hnew
        refine ⟨List.nodup_append.mpr ⟨hnodup, by simp, fun x hx y hy hxy => ?_⟩, fun gid => ?_⟩
        · rw [List.mem_singleton.mp hy] at hxy
          exact hnew.2 (hxy ▸ hx)
        · rw [List.mem_append, List.mem_singleton, hmem]
          refine or_congr_right ⟨fun h => ⟨hnew.1, h.symm⟩, fun h => h.2.symm⟩
      · rename_i hold
        refine ⟨hnodup, fun gid => ?_⟩
        rw [hmem]
        refine ⟨Or.inl, fun h => h.elim id fun hlast => ?_⟩
        rw [← hlast.2, ← hmem]
        by_contra hnot
        exact hold ⟨hlast.1, hnot⟩

variable (toUpperCase)

/-- A verified refund with lines for a line of the order. -/
def Supports (evidence : RefundMonetaryEvidence) (c : CanonicalOrderLine) (r : RefundSnapshot) :
    Prop :=
  matchingRefundLines c r ≠ [] ∧ VerifiedRefund evidence r

instance (evidence : RefundMonetaryEvidence) (c : CanonicalOrderLine) (r : RefundSnapshot) :
    Decidable (Supports evidence c r) := inferInstanceAs (Decidable (_ ∧ _))

def supportingRefund (c : CanonicalOrderLine) (r : RefundSnapshot) : SupportingRefund where
  shopifyRefundGid := r.refundGid
  refundLineItems := (matchingRefundLines c r).map fun line =>
    ⟨line.refundLineItemGid, line.quantity⟩
  transactions := successfulTransactions toUpperCase r

def supportingRefunds (evidence : RefundMonetaryEvidence) (refunds : List RefundSnapshot)
    (c : CanonicalOrderLine) : List SupportingRefund :=
  (refunds.filter fun r => Supports evidence c r).map (supportingRefund toUpperCase c)

/-- The lines of verified refunds that are for a line of the order. -/
def verifiedRefundLines (evidence : RefundMonetaryEvidence) (refunds : List RefundSnapshot)
    (c : CanonicalOrderLine) : List RefundLineItem :=
  (refunds.filter fun r => VerifiedRefund evidence r).flatMap (matchingRefundLines c)

/-- How much of a line of the order is refunded by verified refunds. -/
def verifiedQuantity (evidence : RefundMonetaryEvidence) (refunds : List RefundSnapshot)
    (c : CanonicalOrderLine) : ℚ :=
  ((verifiedRefundLines evidence refunds c).map (·.quantity)).sum

/-- The refunds that support a line, after one more refund. -/
def SupportedQuantity.add (evidence : RefundMonetaryEvidence) (c : CanonicalOrderLine)
    (st : SupportedQuantity) (r : RefundSnapshot) : SupportedQuantity :=
  if Supports evidence c r then
    { supportingRefunds := st.supportingRefunds ++ [supportingRefund toUpperCase c r]
      successfullyRefundedQuantity := st.successfullyRefundedQuantity +
        ((matchingRefundLines c r).map (·.quantity)).sum }
  else st

variable {toUpperCase}

section Support

variable {evidence : RefundMonetaryEvidence} {c : CanonicalOrderLine}

/-- The refund under an identifier is the one that is verified. -/
lemma verifiedRefund_iff (hkey : KeyUnique (·.sourceShopifyRefundId) evidence.refunds)
    {r : RefundSnapshot} : VerifiedRefund evidence r ↔
      ∃ item, findRow (·.sourceShopifyRefundId) r.sourceShopifyRefundId evidence.refunds =
        some item ∧ IsVerifiedRefund item := by
  constructor
  · rintro ⟨item, hitem, hid, hverified⟩
    exact ⟨item, hid ▸ findRow_of_mem hkey hitem, hverified⟩
  · rintro ⟨item, hfind, hverified⟩
    exact ⟨item, mem_of_findRow hfind, key_of_findRow hfind, hverified⟩

lemma supportRefund_eq_ok (hkey : KeyUnique (·.sourceShopifyRefundId) evidence.refunds)
    {r : RefundSnapshot} (hknown : ∀ t ∈ r.transactions, KnownTransaction toUpperCase t)
    {st st' : SupportedQuantity} : supportRefund toUpperCase evidence c st r = .ok st' ↔
      (Supports evidence c r → successfulTransactions toUpperCase r ≠ []) ∧
        st' = st.add toUpperCase evidence c r := by
  have hsupports : Supports evidence c r ↔ matchingRefundLines c r ≠ [] ∧ ∃ item,
      findRow (·.sourceShopifyRefundId) r.sourceShopifyRefundId evidence.refunds = some item ∧
        IsVerifiedRefund item := and_congr_right fun _ => verifiedRefund_iff hkey
  have hskip : ¬ Supports evidence c r → (pure st = Except.ok (ε := TerminalRefusal) st' ↔
      (Supports evidence c r → successfulTransactions toUpperCase r ≠ []) ∧
        st' = st.add toUpperCase evidence c r) := by
    intro hnot
    unfold SupportedQuantity.add
    rw [if_neg hnot, pure_eq_ok]
    exact ⟨fun h => ⟨fun hs => absurd hs hnot, h.symm⟩, fun h => h.2.symm⟩
  unfold supportRefund
  by_cases hnil : matchingRefundLines c r = []
  · rw [if_pos hnil]
    exact hskip fun hs => hs.1 hnil
  rw [if_neg hnil]
  cases hfind : findRow (·.sourceShopifyRefundId) r.sourceShopifyRefundId evidence.refunds with
  | none =>
      refine hskip fun hs => ?_
      obtain ⟨-, item, hitem, -⟩ := hsupports.mp hs
      rw [hfind] at hitem
      cases hitem
  | some item =>
      by_cases hverified : IsVerifiedRefund item
      · have hs : Supports evidence c r := hsupports.mpr ⟨hnil, item, hfind, hverified⟩
        simp only [if_pos hverified, bind_eq_ok, collectSuccessfulTransactions_eq_ok hknown,
          require_eq_ok, pure_eq_ok, exists_and_left, exists_const, exists_eq_left]
        unfold SupportedQuantity.add
        rw [if_pos hs, List.map_map]
        exact ⟨fun h => ⟨fun _ => h.1, h.2.symm⟩, fun h => ⟨h.1 hs, h.2.symm⟩⟩
      · simp only [if_neg hverified]
        refine hskip fun hs => ?_
        obtain ⟨-, item', hitem, hverified'⟩ := hsupports.mp hs
        obtain rfl := Option.some.inj (hfind.symm.trans hitem)
        exact hverified hverified'

/-- What supports a line after all refunds. -/
lemma foldl_add (refunds : List RefundSnapshot) (st : SupportedQuantity) :
    refunds.foldl (SupportedQuantity.add toUpperCase evidence c) st =
      ⟨st.supportingRefunds ++ supportingRefunds toUpperCase evidence refunds c,
        st.successfullyRefundedQuantity + verifiedQuantity evidence refunds c⟩ := by
  induction refunds generalizing st with
  | nil => simp [supportingRefunds, verifiedQuantity, verifiedRefundLines]
  | cons r refunds ih =>
      rw [List.foldl_cons, ih]
      unfold SupportedQuantity.add supportingRefunds verifiedQuantity verifiedRefundLines
      by_cases hverified : VerifiedRefund evidence r
      · by_cases hnil : matchingRefundLines c r = []
        · have hnot : ¬ Supports evidence c r := fun hs => hs.1 hnil
          simp [hverified, hnot, hnil]
        · have hs : Supports evidence c r := ⟨hnil, hverified⟩
          simp [hverified, hs, add_assoc]
      · have hnot : ¬ Supports evidence c r := fun hs => hverified hs.2
        simp [hverified, hnot]

end Support

/-! ## Verified refunds have a successful transaction -/

/-- Fingerprints tell kinds and statuses apart that do not contain the separator. -/
lemma fingerprintOf_kind_status {k k' s s' a a' u u' p p' : String} (hk : '|' ∉ k.toList)
    (hk' : '|' ∉ k'.toList) (hs : '|' ∉ s.toList) (hs' : '|' ∉ s'.toList)
    (h : fingerprintOf k s a u p = fingerprintOf k' s' a' u' p') : k = k' ∧ s = s' := by
  have hlist := congrArg String.toList h
  have hbar : ("|" : String).toList = ['|'] := rfl
  simp only [fingerprintOf, String.toList_append, hbar, List.append_assoc, List.singleton_append]
    at hlist
  obtain ⟨hkind, hlist⟩ := append_separator_injective hk hk' hlist
  obtain ⟨hstatus, -⟩ := append_separator_injective hs hs' hlist
  exact ⟨String.toList_inj.mp hkind, String.toList_inj.mp hstatus⟩

lemma normalizeTransaction_words {t : Shopify.RefundTransaction} {p : String × UniqueTransaction}
    (h : normalizeTransaction toUpperCase t = some p) :
    p.2.kind = normalizeWord toUpperCase t.kind ∧ p.2.status = normalizeWord toUpperCase t.status := by
  unfold normalizeTransaction at h
  obtain ⟨money, -, hp⟩ := Option.bind_eq_some_iff.mp h
  split at hp
  · cases hp
  · obtain rfl := Option.some.inj hp
    exact ⟨rfl, rfl⟩

lemma normalizeWord_eq {word : Option String} (h : trimmed word ≠ "") :
    normalizeWord toUpperCase word = toUpperCase (trimmed word) := by
  cases word with
  | none => exact absurd rfl h
  | some word => rfl

lemma separator_notMem_supported {kind : String}
    (h : kind ∈ SUPPORTED_REFUND_TRANSACTION_KINDS ++ SUPPORTED_REFUND_TRANSACTION_STATUSES) :
    '|' ∉ kind.toList := by
  have hall : ∀ word ∈ SUPPORTED_REFUND_TRANSACTION_KINDS ++ SUPPORTED_REFUND_TRANSACTION_STATUSES,
      '|' ∉ word.toList := by decide
  exact hall kind h

section Monetary

variable {c : RefundCollection}

/-- A classification as a refund of money is a decision on the sums. -/
lemma classify_monetaryRefund
    (h : (Shopify.classifyCanonicalRefundMonetaryEvidence toUpperCase c).classification =
      .monetaryRefund) :
    ∃ orderTotal common st, Collected toUpperCase orderTotal c.allTransactions st ∧
      st.duplicateConflict = false ∧ ¬ c.Malformed toUpperCase ∧ st.uniqueTransactions ≠ [] ∧
      Shopify.classifyCanonicalRefundMonetaryEvidence toUpperCase c =
        classifyRefunds toUpperCase c common orderTotal st.uniqueTransactions := by
  simp only [Shopify.classifyCanonicalRefundMonetaryEvidence] at h ⊢
  split at h
  · cases h
  split at h
  · cases h
  split at h
  · cases h
  rename_i hlist htransactions hlines
  rw [if_neg hlist, if_neg htransactions, if_neg hlines]
  cases htotal : c.orderTotal toUpperCase with
  | none =>
      rw [htotal] at h
      cases h
  | some orderTotal =>
      rw [htotal] at h
      have hcollected := @collected_collectTransactions toUpperCase orderTotal c
      simp only [classifyTransactions] at h ⊢
      generalize collectTransactions toUpperCase orderTotal c.refunds = st at h hcollected ⊢
      split at h
      · cases h
      split at h
      · cases h
      split at h
      · cases h
      split at h
      · cases h
      split at h
      · cases h
      rename_i hconflict hbad hcurrency hfinal hsome
      rw [if_neg hconflict, if_neg hbad, if_neg hcurrency, if_neg hfinal, if_neg hsome]
      exact ⟨orderTotal, _, st, hcollected, Bool.eq_false_iff.mpr hconflict,
        fun hm => hbad (Or.inl (hcollected.malformed.mpr hm)), hsome, rfl⟩

/-- Then every refund has its result. -/
lemma classifyRefunds_results {common : EvidenceCommon} {orderTotal : Shopify.ParsedMoney}
    {unique : List (String × UniqueTransaction)} (hkey : KeyUnique Prod.fst unique)
    (h : (classifyRefunds toUpperCase c common orderTotal unique).classification =
      .monetaryRefund) :
    ∀ r ∈ c.refunds, (r.result toUpperCase orderTotal unique).isSome := by
  have hsummed := @summed_sumRefunds toUpperCase orderTotal _ hkey c.refunds
  simp only [classifyRefunds] at h
  split at h
  · cases h
  split at h
  · cases h
  rename_i hcurrency hmismatch
  intro r hr
  have hown : ¬ r.ForeignTotal toUpperCase orderTotal := fun hforeign =>
    hcurrency (hsummed.currencyMismatch.mpr ⟨r, hr, hforeign⟩)
  unfold RefundSnapshot.ForeignTotal at hown
  simp only [not_forall, ne_eq, not_not] at hown
  obtain ⟨total, htotal, hsame⟩ := hown
  have hamount : r.localAmount unique = total.decimal := by
    by_contra hne
    exact hmismatch (Or.inl (hsummed.aggregateMismatch.mpr ⟨r, hr, total, htotal, hsame, hne⟩))
  unfold RefundSnapshot.result
  rw [htotal, Option.bind_some, if_pos ⟨hsame, hamount⟩]
  rfl

/-- A result that verifies money comes from a successful refund. -/
lemma itemResult_verified {refund : RefundSnapshot} {currency : String} {amount : ℚ}
    {positive : List (String × UniqueTransaction)} {voids : ℕ}
    (h : IsVerifiedRefund (itemResult refund currency amount positive voids)) : 0 < amount := by
  obtain ⟨hclass, -⟩ := h
  unfold itemResult at hclass
  by_contra hnot
  rw [if_neg hnot] at hclass
  split at hclass
  · cases hclass
  · cases hclass

lemma result_id {orderTotal : Shopify.ParsedMoney} {unique : List (String × UniqueTransaction)}
    {r : RefundSnapshot} {item : RefundItemMonetaryEvidence}
    (h : r.result toUpperCase orderTotal unique = some item) :
    item.sourceShopifyRefundId = r.sourceShopifyRefundId := by
  unfold RefundSnapshot.result at h
  obtain ⟨total, -, hitem⟩ := Option.bind_eq_some_iff.mp h
  split at hitem
  · obtain rfl := Option.some.inj hitem
    unfold itemResult
    split
    · rfl
    split
    · rfl
    · rfl
  · cases hitem

end Monetary

section Monetary

variable {c : RefundCollection}
  (hmonetary : (Shopify.classifyCanonicalRefundMonetaryEvidence toUpperCase c).classification =
    .monetaryRefund)

include hmonetary

/-- Every refund has its own result. -/
lemma map_id_refunds :
    (Shopify.classifyCanonicalRefundMonetaryEvidence toUpperCase c).refunds.map
        (·.sourceShopifyRefundId) = c.refunds.map (·.sourceShopifyRefundId) := by
  obtain ⟨orderTotal, common, st, hcollected, -, -, -, heq⟩ := classify_monetaryRefund hmonetary
  rw [heq] at hmonetary ⊢
  have hsome := classifyRefunds_results hcollected.key hmonetary
  rw [classifyRefunds_refunds, (summed_sumRefunds orderTotal hcollected.key c.refunds).results,
    List.map_filterMap, ← List.filterMap_eq_map]
  refine List.filterMap_congr fun r hr => ?_
  obtain ⟨item, hitem⟩ := Option.isSome_iff_exists.mp (hsome r hr)
  rw [hitem, Option.map_some, result_id hitem]
  rfl

lemma refunds_ne_nil : c.refunds ≠ [] := by
  intro hnil
  obtain ⟨orderTotal, common, st, h, -, -, hsome, -⟩ := classify_monetaryRefund hmonetary
  obtain ⟨p, hp⟩ := List.exists_mem_of_ne_nil _ hsome
  obtain ⟨t, ht, -⟩ := mem_entries.mp (h.subset p hp)
  obtain ⟨r, hr, -⟩ := List.mem_flatMap.mp ht
  rw [hnil] at hr
  cases hr

/-- A verified refund has a successful transaction. -/
lemma successfulTransactions_ne_nil
    (hkey : KeyUnique (·.sourceShopifyRefundId)
      (Shopify.classifyCanonicalRefundMonetaryEvidence toUpperCase c).refunds)
    (hknown : ∀ r ∈ c.refunds, ∀ t ∈ r.transactions, KnownTransaction toUpperCase t)
    {r : RefundSnapshot} (hr : r ∈ c.refunds)
    (hverified : VerifiedRefund (Shopify.classifyCanonicalRefundMonetaryEvidence toUpperCase c) r) :
    successfulTransactions toUpperCase r ≠ [] := by
  have hids := map_id_refunds hmonetary
  obtain ⟨orderTotal, common, st, h, hconsistent, hwell, -, heq⟩ :=
    classify_monetaryRefund hmonetary
  rw [heq] at hmonetary hkey hverified hids
  rw [classifyRefunds_refunds, (summed_sumRefunds orderTotal h.key c.refunds).results] at hkey
  obtain ⟨item, hitem, hid, hitemVerified⟩ := hverified
  rw [classifyRefunds_refunds, (summed_sumRefunds orderTotal h.key c.refunds).results] at hitem
  -- The result under the identifier of the refund is its own.
  obtain ⟨own, hown⟩ := Option.isSome_iff_exists.mp
    (classifyRefunds_results h.key hmonetary r hr)
  have hsame : item = own := by
    refine hkey.eq hitem (List.mem_filterMap.mpr ⟨r, hr, hown⟩) ?_
    rw [hid, result_id hown]
  subst hsame
  unfold RefundSnapshot.result at hown
  obtain ⟨total, -, hresult⟩ := Option.bind_eq_some_iff.mp hown
  split at hresult
  · obtain rfl := Option.some.inj hresult
    have hpos := itemResult_verified hitemVerified
    have hne : positiveEntries st.uniqueTransactions r.transactions ≠ [] := by
      intro hnil
      unfold RefundSnapshot.localAmount at hpos
      rw [hnil] at hpos
      exact lt_irrefl _ hpos
    obtain ⟨e, he⟩ := List.exists_mem_of_ne_nil _ hne
    obtain ⟨p, hp, hrefund, -, t, ht, htid⟩ := (mem_positiveEntries h.key).mp he
    have htknown := hknown r hr t ht
    have hpknown : ∃ t' ∈ c.allTransactions, normalizeTransaction toUpperCase t' = some p :=
      mem_entries.mp (h.subset p hp)
    cases hnorm : normalizeTransaction toUpperCase t with
    | none => exact absurd ⟨t, subset_allTransactions hr ht, hnorm⟩ hwell
    | some q =>
        -- The first transaction of the identifier is the same evidence as that of the refund.
        have hq : q ∈ entries toUpperCase c.allTransactions :=
          mem_entries.mpr ⟨t, subset_allTransactions hr ht, hnorm⟩
        obtain ⟨hqkey, -, -, hqprint⟩ := normalizeTransaction_eq_some hnorm
        obtain ⟨t', -, hnorm'⟩ := hpknown
        obtain ⟨-, -, -, hpprint⟩ := normalizeTransaction_eq_some hnorm'
        have hprint : p.2.fingerprint = q.2.fingerprint := by
          by_contra hdiffer
          have hconflict := h.conflict.mpr
            ⟨q, hq, p, hp, htid.symm.trans hqkey.symm, hdiffer⟩
          rw [hconsistent] at hconflict
          cases hconflict
        obtain ⟨hqkind, hqstatus⟩ := normalizeTransaction_words hnorm
        have hkindWord : q.2.kind = toUpperCase (trimmed t.kind) :=
          hqkind.trans (normalizeWord_eq htknown.kind)
        have hstatusWord : q.2.status = toUpperCase (trimmed t.status) :=
          hqstatus.trans (normalizeWord_eq htknown.status)
        rw [hpprint, hqprint] at hprint
        obtain ⟨hkind, hstatus⟩ := fingerprintOf_kind_status
          (hrefund.1 ▸ separator_notMem_supported (by decide))
          (hkindWord ▸ separator_notMem_supported
            (List.mem_append_left _ htknown.supportedKind))
          (hrefund.2.1 ▸ separator_notMem_supported (by decide))
          (hstatusWord ▸ separator_notMem_supported
            (List.mem_append_right _ htknown.supportedStatus)) hprint
        have hsuccessful : IsSuccessfulTransaction toUpperCase t :=
          ⟨hkindWord.symm.trans (hkind.symm.trans hrefund.1),
            hstatusWord.symm.trans (hstatus.symm.trans hrefund.2.1)⟩
        intro hnil
        have hmem := ((successfulTransactions_spec r).2 (trim t.transactionGid)).mpr
          ⟨t, ht, hsuccessful, rfl⟩
        rw [hnil] at hmem
        cases hmem
  · cases hresult

end Monetary

/-! ## The decision -/

variable (toUpperCase)

/-- The monetary evidence of the refunds. -/
def TerminalInput.evidence (input : TerminalInput) : RefundMonetaryEvidence :=
  Shopify.classifyCanonicalRefundMonetaryEvidence toUpperCase input.refundCollection

/-- The lines of the allocation with the lines of the order that they are. -/
def TerminalInput.resolved (input : TerminalInput) :
    List (TerminalAllocationLine × CanonicalOrderLine) :=
  resolvedLines input.orderSnapshot.lineItems input.allocation.lineItems

/-- What can still be fulfilled of a line of the order. -/
def TerminalInput.openLines (input : TerminalInput) (c : CanonicalOrderLine) :
    List OpenFulfillmentLine :=
  openFulfillmentLines toUpperCase input.orderSnapshot.fulfillmentOrders c

/-- The evidence for one line. -/
def TerminalInput.evidenceLine (input : TerminalInput)
    (p : TerminalAllocationLine × CanonicalOrderLine) : TerminalEvidenceLine where
  vendorAllocationLineItemId := p.1.id
  shopifyLineItemGid := p.2.lineItemGid
  ownedQuantity := p.1.quantity
  successfullyRefundedQuantity :=
    verifiedQuantity (input.evidence toUpperCase) input.refundCollection.refunds p.2
  remainingFulfillableQuantity := remainingQuantity (input.openLines toUpperCase p.2)
  refunds := supportingRefunds toUpperCase (input.evidence toUpperCase)
    input.refundCollection.refunds p.2
  fulfillmentOrderLines := input.openLines toUpperCase p.2

/-- The order, the allocation, the refunds and the fulfillment orders are identified. -/
structure TerminalInput.Identified (input : TerminalInput) : Prop where
  order : trimmed input.allocation.orderSourceShopifyOrderId ≠ ""
  sameOrder : trimmed input.allocation.orderSourceShopifyOrderId =
    input.orderSnapshot.sourceShopifyOrderId
  sameRefunds : input.refundCollection.sourceShopifyOrderId =
    input.orderSnapshot.sourceShopifyOrderId
  sameGid : input.refundCollection.orderGid = input.orderSnapshot.orderGid
  lineItemsComplete : input.completeness.orderLineItemsComplete = true
  fulfillmentOrdersComplete : input.completeness.fulfillmentOrderPaginationComplete = true
  fulfillmentLinesComplete : input.completeness.fulfillmentOrderLineItemPaginationComplete = true
  refundsComplete : input.refundCollection.refundsListComplete = true
  lines : input.allocation.lineItems ≠ []
  canonicalLines : ∀ line ∈ input.orderSnapshot.lineItems,
    Names (some line.lineItemGid) (some line.sourceLineItemId)
  canonicalSeparate : input.orderSnapshot.lineItems.Pairwise fun a b =>
    trim b.lineItemGid ≠ trim a.lineItemGid
  allocationLines : ∀ line ∈ input.allocation.lineItems,
    IdentifiedLine input.orderSnapshot.lineItems line
  allocationSeparate :
    input.allocation.lineItems.Pairwise (SeparateLines input.orderSnapshot.lineItems)
  refunds : ∀ r ∈ input.refundCollection.refunds, IdentifiedRefund toUpperCase r
  refundsSeparate : input.refundCollection.refunds.Pairwise SeparateRefunds
  refundIds : KeyUnique (·.sourceShopifyRefundId) input.refundCollection.refunds
  fulfillment : ∀ order ∈ input.orderSnapshot.fulfillmentOrders, ∀ line ∈ order.lineItems,
    SupportedFulfillment toUpperCase (input.resolved.map (·.2.lineItemGid)) order line

/-- The allocation is refunded in full: everything is identified, the refunds are verified refunds
of money, and each line is refunded in its whole quantity and has nothing left to fulfill. -/
structure TerminalInput.Qualifies (input : TerminalInput) : Prop where
  identified : input.Identified toUpperCase
  monetary : (input.evidence toUpperCase).classification = .monetaryRefund
  verified : (input.evidence toUpperCase).reasonCode = .monetaryRefundVerified
  refunded : ∀ p ∈ input.resolved, verifiedQuantity (input.evidence toUpperCase)
    input.refundCollection.refunds p.2 = p.1.quantity
  remaining : ∀ p ∈ input.resolved, remainingQuantity (input.openLines toUpperCase p.2) = 0

variable {toUpperCase}

section Decision

variable {input : TerminalInput}

lemma verifyLine_eq_ok
    (hkey : KeyUnique (·.sourceShopifyRefundId) (input.evidence toUpperCase).refunds)
    (hknown : ∀ r ∈ input.refundCollection.refunds,
      ∀ t ∈ r.transactions, KnownTransaction toUpperCase t)
    {p : TerminalAllocationLine × CanonicalOrderLine} {lines lines' : List TerminalEvidenceLine} :
    verifyLine toUpperCase input (input.evidence toUpperCase) lines p = .ok lines' ↔
      ((∀ r ∈ input.refundCollection.refunds, Supports (input.evidence toUpperCase) p.2 r →
          successfulTransactions toUpperCase r ≠ []) ∧
        verifiedQuantity (input.evidence toUpperCase) input.refundCollection.refunds p.2 =
          p.1.quantity ∧
        ¬ 0 < remainingQuantity (input.openLines toUpperCase p.2)) ∧
      lines' = lines ++ [input.evidenceLine toUpperCase p] := by
  have hsupport : ∀ st', input.refundCollection.refunds.foldlM
      (supportRefund toUpperCase (input.evidence toUpperCase) p.2) ⟨[], 0⟩ = .ok st' ↔
      (∀ r ∈ input.refundCollection.refunds, Supports (input.evidence toUpperCase) p.2 r →
          successfulTransactions toUpperCase r ≠ []) ∧
        st' = ⟨supportingRefunds toUpperCase (input.evidence toUpperCase)
            input.refundCollection.refunds p.2,
          verifiedQuantity (input.evidence toUpperCase) input.refundCollection.refunds p.2⟩ := by
    intro st'
    rw [foldlM_checked fun r hr st t => supportRefund_eq_ok hkey (hknown r hr), foldl_add,
      List.nil_append, zero_add]
  unfold verifyLine
  simp only [bind_eq_ok, hsupport, require_eq_ok, pure_eq_ok, exists_and_left, exists_const]
  constructor
  · rintro ⟨_, ⟨hsuccessful, rfl⟩, hle, hge, hremaining, rfl⟩
    exact ⟨⟨hsuccessful, le_antisymm (not_lt.mp hle) (not_lt.mp hge), hremaining⟩, rfl⟩
  · rintro ⟨⟨hsuccessful, hequal, hremaining⟩, rfl⟩
    exact ⟨_, ⟨hsuccessful, rfl⟩, not_lt.mpr hequal.le, not_lt.mpr hequal.ge, hremaining, rfl⟩

lemma verifyLines_eq_ok
    (hkey : KeyUnique (·.sourceShopifyRefundId) (input.evidence toUpperCase).refunds)
    (hknown : ∀ r ∈ input.refundCollection.refunds,
      ∀ t ∈ r.transactions, KnownTransaction toUpperCase t)
    {ps : List (TerminalAllocationLine × CanonicalOrderLine)} {lines : List TerminalEvidenceLine} :
    ps.foldlM (verifyLine toUpperCase input (input.evidence toUpperCase)) [] = .ok lines ↔
      (∀ p ∈ ps, (∀ r ∈ input.refundCollection.refunds,
          Supports (input.evidence toUpperCase) p.2 r →
            successfulTransactions toUpperCase r ≠ []) ∧
        verifiedQuantity (input.evidence toUpperCase) input.refundCollection.refunds p.2 =
          p.1.quantity ∧
        ¬ 0 < remainingQuantity (input.openLines toUpperCase p.2)) ∧
      lines = ps.map (input.evidenceLine toUpperCase) := by
  have hfold : ∀ (ps : List (TerminalAllocationLine × CanonicalOrderLine))
      (lines : List TerminalEvidenceLine),
      ps.foldl (fun lines p => lines ++ [input.evidenceLine toUpperCase p]) lines =
        lines ++ ps.map (input.evidenceLine toUpperCase) := by
    intro ps
    induction ps with
    | nil => intro lines; simp
    | cons p ps ih =>
        intro lines
        rw [List.foldl_cons, ih]
        simp
  rw [foldlM_checked (f := fun lines p => lines ++ [input.evidenceLine toUpperCase p])
    fun p _ lines lines' => verifyLine_eq_ok hkey hknown, hfold, List.nil_append]

end Decision

section Exact

variable {input : TerminalInput}

/-- What a line of the allocation is, is a line of the order. -/
lemma mem_of_mem_resolved {p : TerminalAllocationLine × CanonicalOrderLine}
    (hp : p ∈ input.resolved) :
    p.1 ∈ input.allocation.lineItems ∧ p.2 ∈ input.orderSnapshot.lineItems ∧
      ownedLine input.orderSnapshot.lineItems p.1 = some p.2 := by
  obtain ⟨line, hline, hmap⟩ := List.mem_filterMap.mp hp
  obtain ⟨c, hc, rfl⟩ := Option.map_eq_some_iff.mp hmap
  have hfilter := ownedLine_eq_some.mp hc
  have hmem : c ∈ input.orderSnapshot.lineItems.filter
      fun l => trim l.sourceLineItemId = sourceIdOf line := by
    rw [hfilter]
    exact List.mem_singleton_self c
  exact ⟨hline, List.mem_of_mem_filter hmem, hc⟩

/-- Nothing negative is left to fulfill of a claimed line. -/
lemma remainingQuantity_nonneg
    (hblank : ∀ l ∈ input.orderSnapshot.lineItems, trim l.lineItemGid = l.lineItemGid)
    (hsupported : ∀ order ∈ input.orderSnapshot.fulfillmentOrders, ∀ line ∈ order.lineItems,
      SupportedFulfillment toUpperCase (input.resolved.map (·.2.lineItemGid)) order line)
    {p : TerminalAllocationLine × CanonicalOrderLine} (hp : p ∈ input.resolved) :
    0 ≤ remainingQuantity (input.openLines toUpperCase p.2) := by
  refine List.sum_nonneg fun x hx => ?_
  obtain ⟨openLine, hopen, rfl⟩ := List.mem_map.mp hx
  obtain ⟨order, horder, hlines⟩ := List.mem_flatMap.mp hopen
  split at hlines
  · rename_i hstatus
    obtain ⟨line, hline, rfl⟩ := List.mem_map.mp hlines
    obtain ⟨hmem, hgid⟩ := List.mem_filter.mp hline
    have hgid : line.lineItemId = some p.2.lineItemGid := of_decide_eq_true hgid
    have hclaimed : trimmed line.lineItemId ∈ input.resolved.map (·.2.lineItemGid) := by
      rw [hgid]
      show trim p.2.lineItemGid ∈ _
      rw [hblank p.2 (mem_of_mem_resolved hp).2.1]
      exact List.mem_map_of_mem hp
    obtain ⟨-, hword⟩ := normalizeStatus_eq_some.mp hstatus
    obtain ⟨q, hq, -, hnonneg⟩ :=
      ((hsupported order horder line hmem).claimed hclaimed).2.2.2 hword.symm
    simp only [hq, Option.getD_some]
    exact hnonneg
  · cases hlines

/-- The walk succeeds exactly on allocations that qualify, and returns their evidence. -/
theorem verify_eq_ok
    (hblank : ∀ l ∈ input.orderSnapshot.lineItems, trim l.lineItemGid = l.lineItemGid)
    {q : TerminalQualification} :
    verifyAllocationFullRefundTerminal toUpperCase input = .ok q ↔
      input.Qualifies toUpperCase ∧
        q = ⟨input.orderSnapshot.orderGid, input.resolved.map (input.evidenceLine toUpperCase)⟩ := by
  unfold verifyAllocationFullRefundTerminal
  simp only [bind_eq_ok, getOrThrow_eq_ok, normalizeRequired_eq_some, require_eq_ok, pure_eq_ok,
    exists_and_left, exists_const, forM_eq_ok, indexCanonicalLines_eq_ok,
    checkFulfillmentOrder_eq_ok]
  constructor
  · rintro ⟨_, ⟨horder, rfl⟩, hitems, ⟨horders, hlines⟩, hlist, ⟨hsame, hrefunds, hgid⟩, hne, _,
      ⟨hcanonical, hseparate, rfl⟩, resolved, hresolved, seen, hseen, hsome, -,
      ⟨hmonetary, hverified⟩, hkey, hfulfillment, lines, hverify, rfl⟩
    obtain ⟨hallocation, hown, rfl⟩ := resolveAllocationLines_eq_ok.mp hresolved
    obtain ⟨hidentified, hdifferent, -⟩ := checkRefunds_eq_ok.mp hseen
    have hknown : ∀ r ∈ input.refundCollection.refunds, ∀ t ∈ r.transactions,
        KnownTransaction toUpperCase t := fun r hr => (hidentified r hr).transactions
    obtain ⟨hall, rfl⟩ := (verifyLines_eq_ok hkey hknown).mp hverify
    have hids : KeyUnique (·.sourceShopifyRefundId) input.refundCollection.refunds := by
      unfold KeyUnique
      rw [← map_id_refunds hmonetary]
      exact hkey
    refine ⟨⟨⟨horder, hsame, hrefunds, hgid, hitems, horders, hlines, hlist, hne, hcanonical,
      hseparate, hallocation, hown, hidentified, hdifferent, hids, hfulfillment⟩, hmonetary,
      hverified, fun p hp => (hall p hp).2.1, fun p hp => ?_⟩, rfl⟩
    exact le_antisymm (not_lt.mp (hall p hp).2.2) (remainingQuantity_nonneg hblank hfulfillment hp)
  · rintro ⟨⟨⟨horder, hsame, hrefunds, hgid, hitems, horders, hlines, hlist, hne, hcanonical,
      hseparate, hallocation, hown, hidentified, hdifferent, hids, hsupported⟩, hmonetary,
      hverified, hrefunded, hremaining⟩, rfl⟩
    have hknown : ∀ r ∈ input.refundCollection.refunds, ∀ t ∈ r.transactions,
        KnownTransaction toUpperCase t := fun r hr => (hidentified r hr).transactions
    have hkey : KeyUnique (·.sourceShopifyRefundId) (input.evidence toUpperCase).refunds := by
      unfold KeyUnique TerminalInput.evidence
      rw [map_id_refunds hmonetary]
      exact hids
    refine ⟨_, ⟨horder, rfl⟩, hitems, ⟨horders, hlines⟩, hlist, ⟨hsame, hrefunds, hgid⟩, hne, _,
      ⟨hcanonical, hseparate, rfl⟩, _, resolveAllocationLines_eq_ok.mpr ⟨hallocation, hown, rfl⟩, _,
      checkRefunds_eq_ok.mpr ⟨hidentified, hdifferent, rfl⟩, refunds_ne_nil hmonetary,
      fun hvoid => ?_, ⟨hmonetary, hverified⟩, hkey, hsupported, _, (verifyLines_eq_ok hkey hknown).mpr ⟨fun p hp => ⟨?_, hrefunded p hp, ?_⟩, rfl⟩,
      rfl⟩
    · cases hmonetary.symm.trans hvoid
    · exact fun r hr hs => successfulTransactions_ne_nil hmonetary hkey hknown hr hs.2
    · exact (hremaining p hp).not_gt

end Exact

/-! ## The evidence -/

section Evidence

variable {evidence : RefundMonetaryEvidence} {refunds : List RefundSnapshot}
  {c : CanonicalOrderLine}

/-- What is listed for a line are the lines of the verified refunds. -/
lemma flatMap_refundLineItems :
    (supportingRefunds toUpperCase evidence refunds c).flatMap (·.refundLineItems) =
      (verifiedRefundLines evidence refunds c).map fun line =>
        ⟨line.refundLineItemGid, line.quantity⟩ := by
  unfold supportingRefunds verifiedRefundLines
  induction refunds with
  | nil => rfl
  | cons r refunds ih =>
      by_cases hverified : VerifiedRefund evidence r
      · by_cases hnil : matchingRefundLines c r = []
        · have hnot : ¬ Supports evidence c r := fun hs => hs.1 hnil
          simpa [hverified, hnot, hnil] using ih
        · have hs : Supports evidence c r := ⟨hnil, hverified⟩
          simpa [hverified, hs, supportingRefund] using ih
      · have hnot : ¬ Supports evidence c r := fun hs => hverified hs.2
        simpa [hverified, hnot] using ih

/-- The lines of refunds that have none in common differ. -/
lemma pairwise_refundLines (hrefunds : ∀ r ∈ refunds, r.refundLineItems.Pairwise SeparateRefundLines)
    (hseparate : refunds.Pairwise SeparateRefunds) :
    (refunds.flatMap (·.refundLineItems)).Pairwise SeparateRefundLines := by
  rw [List.pairwise_flatMap]
  refine ⟨hrefunds, hseparate.imp fun hab x hx y hy => ?_⟩
  exact hab y hy x hx

/-- No refund line is listed twice. -/
lemma nodup_verifiedRefundLines
    (hrefunds : ∀ r ∈ refunds, r.refundLineItems.Pairwise SeparateRefundLines)
    (hseparate : refunds.Pairwise SeparateRefunds) :
    ((verifiedRefundLines evidence refunds c).map (·.refundLineItemGid)).Nodup := by
  have hsub : (verifiedRefundLines evidence refunds c).Sublist
      (refunds.flatMap (·.refundLineItems)) := by
    unfold verifiedRefundLines
    refine (List.filter_sublist.flatMap _).trans ?_
    exact List.Sublist.flatMap_right _ fun r _ => List.filter_sublist
  refine List.pairwise_map.mpr (((pairwise_refundLines hrefunds hseparate).sublist hsub).imp ?_)
  intro a b hab heq
  exact hab (congrArg trim heq.symm)

end Evidence

/-- What the evidence of a line says: every line of a verified refund once, with the quantities
that the decision compares. -/
structure LineAccount (evidence : RefundMonetaryEvidence) (refunds : List RefundSnapshot)
    (line : TerminalEvidenceLine) : Prop where
  owned : line.successfullyRefundedQuantity = line.ownedQuantity
  sum_refunds : ((line.refunds.flatMap (·.refundLineItems)).map (·.refundedQuantity)).sum =
    line.successfullyRefundedQuantity
  refundLines : ∀ gid quantity, ⟨gid, quantity⟩ ∈ line.refunds.flatMap (·.refundLineItems) ↔
    ∃ r ∈ refunds, VerifiedRefund evidence r ∧ ∃ refundLine ∈ r.refundLineItems,
      refundLine.lineItemGid = some line.shopifyLineItemGid ∧
      refundLine.refundLineItemGid = gid ∧ refundLine.quantity = quantity
  once : ((line.refunds.flatMap (·.refundLineItems)).map (·.shopifyRefundLineItemGid)).Nodup
  sum_fulfillment : remainingQuantity line.fulfillmentOrderLines =
    line.remainingFulfillableQuantity
  remaining : line.remainingFulfillableQuantity = 0

/-- The evidence of an allocation that qualifies is an account of its lines. -/
lemma TerminalInput.Qualifies.lineAccount {input : TerminalInput}
    (h : input.Qualifies toUpperCase) {p : TerminalAllocationLine × CanonicalOrderLine}
    (hp : p ∈ input.resolved) : LineAccount (input.evidence toUpperCase)
      input.refundCollection.refunds (input.evidenceLine toUpperCase p) := by
  have hlines := @flatMap_refundLineItems toUpperCase (input.evidence toUpperCase)
    input.refundCollection.refunds p.2
  have hpairs := fun r hr => (h.identified.refunds r hr).separate
  refine ⟨h.refunded p hp, ?_, fun gid quantity => ?_, ?_, rfl, h.remaining p hp⟩
  · show (((supportingRefunds _ _ _ _).flatMap _).map _).sum = verifiedQuantity _ _ _
    rw [hlines, List.map_map]
    rfl
  · show _ ∈ (supportingRefunds _ _ _ _).flatMap _ ↔ _
    rw [hlines]
    unfold verifiedRefundLines matchingRefundLines
    simp only [List.mem_map, List.mem_flatMap, List.mem_filter, decide_eq_true_eq,
      SupportingRefundLine.mk.injEq, TerminalInput.evidenceLine]
    constructor
    · rintro ⟨line, ⟨r, ⟨hr, hverified⟩, hline, hgid⟩, rfl, rfl⟩
      exact ⟨r, hr, hverified, line, hline, hgid, rfl, rfl⟩
    · rintro ⟨r, hr, hverified, line, hline, hgid, rfl, rfl⟩
      exact ⟨line, ⟨r, ⟨hr, hverified⟩, hline, hgid⟩, rfl, rfl⟩
  · show (((supportingRefunds _ _ _ _).flatMap _).map _).Nodup
    rw [hlines, List.map_map]
    exact nodup_verifiedRefundLines hpairs h.identified.refundsSeparate

/-- Every line of the allocation has its evidence. -/
lemma TerminalInput.Qualifies.map_id {input : TerminalInput} (h : input.Qualifies toUpperCase) :
    (input.resolved.map (input.evidenceLine toUpperCase)).map (·.vendorAllocationLineItemId) =
      input.allocation.lineItems.map (·.id) := by
  unfold TerminalInput.resolved resolvedLines
  rw [List.map_map, List.map_filterMap, ← List.filterMap_eq_map]
  refine List.filterMap_congr fun line hline => ?_
  obtain ⟨c, hc⟩ := Option.isSome_iff_exists.mp (h.identified.allocationLines line hline).owned
  rw [hc]
  rfl

/-! ## Order -/

/-- The same refund, its lines and transactions in another order. -/
structure PermutedRefund (r r' : RefundSnapshot) : Prop where
  refundGid : r'.refundGid = r.refundGid
  same : SameRefund r r'
  transactions : r.transactions.Perm r'.transactions
  refundLineItems : r.refundLineItems.Perm r'.refundLineItems

/-- The same fulfillment order, its lines in another order. -/
structure PermutedFulfillmentOrder (o o' : CanonicalFulfillmentOrder) : Prop where
  id : o'.id = o.id
  status : o'.status = o.status
  lineItems : o.lineItems.Perm o'.lineItems

/-- The same allocation, order and refunds, with all their lists in another order. -/
structure Permuted (x y : TerminalInput) : Prop where
  orderId : y.allocation.orderSourceShopifyOrderId = x.allocation.orderSourceShopifyOrderId
  lineItems : x.allocation.lineItems.Perm y.allocation.lineItems
  orderGid : y.orderSnapshot.orderGid = x.orderSnapshot.orderGid
  sourceShopifyOrderId :
    y.orderSnapshot.sourceShopifyOrderId = x.orderSnapshot.sourceShopifyOrderId
  canonicalLines : y.orderSnapshot.lineItems = x.orderSnapshot.lineItems
  fulfillmentOrders : Reordered PermutedFulfillmentOrder x.orderSnapshot.fulfillmentOrders
    y.orderSnapshot.fulfillmentOrders
  completeness : y.completeness = x.completeness
  refundsOrderGid : y.refundCollection.orderGid = x.refundCollection.orderGid
  refundsOrderId :
    y.refundCollection.sourceShopifyOrderId = x.refundCollection.sourceShopifyOrderId
  refundsListComplete :
    y.refundCollection.refundsListComplete = x.refundCollection.refundsListComplete
  refundedAmount :
    y.refundCollection.orderTotalRefundedAmount = x.refundCollection.orderTotalRefundedAmount
  refundedCurrency : y.refundCollection.orderTotalRefundedCurrencyCode =
    x.refundCollection.orderTotalRefundedCurrencyCode
  refunds : Reordered PermutedRefund x.refundCollection.refunds y.refundCollection.refunds

lemma PermutedRefund.symm {r r' : RefundSnapshot} (h : PermutedRefund r r') :
    PermutedRefund r' r where
  refundGid := h.refundGid.symm
  same := ⟨h.same.sourceShopifyRefundId.symm, h.same.totalRefundedAmount.symm,
    h.same.totalRefundedCurrencyCode.symm, h.same.transactionPaginationComplete.symm,
    h.same.lineItemPaginationComplete.symm, fun t => (h.same.transactions t).symm⟩
  transactions := h.transactions.symm
  refundLineItems := h.refundLineItems.symm

namespace Permuted

variable {x y : TerminalInput} (h : Permuted x y)

include h

lemma symm : Permuted y x where
  orderId := h.orderId.symm
  lineItems := h.lineItems.symm
  orderGid := h.orderGid.symm
  sourceShopifyOrderId := h.sourceShopifyOrderId.symm
  canonicalLines := h.canonicalLines.symm
  fulfillmentOrders := h.fulfillmentOrders.symm.imp fun _ _ ho =>
    ⟨ho.id.symm, ho.status.symm, ho.lineItems.symm⟩
  completeness := h.completeness.symm
  refundsOrderGid := h.refundsOrderGid.symm
  refundsOrderId := h.refundsOrderId.symm
  refundsListComplete := h.refundsListComplete.symm
  refundedAmount := h.refundedAmount.symm
  refundedCurrency := h.refundedCurrency.symm
  refunds := h.refunds.symm.imp fun _ _ hr => PermutedRefund.symm hr

lemma sameRefunds : SameRefunds x.refundCollection y.refundCollection :=
  ⟨h.refundsListComplete, h.refundedAmount, h.refundedCurrency,
    h.refunds.imp fun _ _ hr => hr.same⟩

lemma resolved_perm : x.resolved.Perm y.resolved := by
  unfold TerminalInput.resolved resolvedLines
  rw [h.canonicalLines]
  exact h.lineItems.filterMap _

lemma openLines_perm (c : CanonicalOrderLine) :
    (x.openLines toUpperCase c).Perm (y.openLines toUpperCase c) := by
  unfold TerminalInput.openLines openFulfillmentLines
  refine h.fulfillmentOrders.flatMap fun o o' ho => ?_
  rw [ho.status, ho.id]
  split
  · exact (ho.lineItems.filter _).map _
  · exact List.Perm.refl _

omit h in
lemma matchingRefundLines_perm {r r' : RefundSnapshot} (hr : PermutedRefund r r')
    (c : CanonicalOrderLine) : (matchingRefundLines c r).Perm (matchingRefundLines c r') :=
  hr.refundLineItems.filter _

omit h in
/-- What verifies a refund is the answer for it. -/
lemma verifiedRefund_verdict {evidence : RefundMonetaryEvidence} {r : RefundSnapshot} :
    VerifiedRefund evidence r ↔ ∃ v ∈ evidence.refunds.map (·.verdict),
      v.sourceShopifyRefundId = r.sourceShopifyRefundId ∧ v.classification = .monetaryRefund ∧
        v.reasonCode = .monetaryRefundVerified := by
  constructor
  · rintro ⟨item, hitem, hid, hclass, hreason⟩
    exact ⟨item.verdict, List.mem_map_of_mem hitem, hid, hclass, hreason⟩
  · rintro ⟨v, hv, hid, hclass, hreason⟩
    obtain ⟨item, hitem, rfl⟩ := List.mem_map.mp hv
    exact ⟨item, hitem, hid, hclass, hreason⟩

variable (hbars : x.refundCollection.Unambiguous toUpperCase)
  (hfits : x.refundCollection.Fits toUpperCase)

include hbars hfits

lemma verifiedRefund_iff {r r' : RefundSnapshot} (hr : PermutedRefund r r') :
    VerifiedRefund (x.evidence toUpperCase) r ↔ VerifiedRefund (y.evidence toUpperCase) r' := by
  have hsame := (h.sameRefunds.sameAnswer hbars hfits).1
  rw [verifiedRefund_verdict, verifiedRefund_verdict, hr.same.sourceShopifyRefundId]
  simp only [TerminalInput.evidence, hsame.refunds.mem_iff]

lemma verifiedRefundLines_perm (c : CanonicalOrderLine) :
    (verifiedRefundLines (x.evidence toUpperCase) x.refundCollection.refunds c).Perm
      (verifiedRefundLines (y.evidence toUpperCase) y.refundCollection.refunds c) := by
  unfold verifiedRefundLines
  refine (h.refunds.filter fun r r' hr => ?_).flatMap fun r r' hr =>
    matchingRefundLines_perm hr c
  simp only [h.verifiedRefund_iff hbars hfits hr]

lemma verifiedQuantity_eq (c : CanonicalOrderLine) :
    verifiedQuantity (x.evidence toUpperCase) x.refundCollection.refunds c =
      verifiedQuantity (y.evidence toUpperCase) y.refundCollection.refunds c :=
  ((h.verifiedRefundLines_perm hbars hfits c).map _).sum_eq

omit hbars hfits in
lemma identified (hx : x.Identified toUpperCase) : y.Identified toUpperCase := by
  have hallocation : ∀ line ∈ y.allocation.lineItems,
      IdentifiedLine y.orderSnapshot.lineItems line := by
    intro line hline
    rw [h.canonicalLines]
    exact hx.allocationLines line (h.lineItems.mem_iff.mpr hline)
  have hseparate : (y.refundCollection.refunds.flatMap (·.refundLineItems)).Pairwise
      SeparateRefundLines := by
    have hperm := h.refunds.flatMap (f := (·.refundLineItems)) (g := (·.refundLineItems))
      fun _ _ hr => hr.refundLineItems
    refine (hperm.pairwise_iff fun {a b} hab => Ne.symm hab).mp ?_
    exact pairwise_refundLines (fun r hr => (hx.refunds r hr).separate) hx.refundsSeparate
  obtain ⟨hown, hpairs⟩ := List.pairwise_flatMap.mp hseparate
  constructor
  · rw [h.orderId]
    exact hx.order
  · rw [h.orderId, h.sourceShopifyOrderId]
    exact hx.sameOrder
  · rw [h.refundsOrderId, h.sourceShopifyOrderId]
    exact hx.sameRefunds
  · rw [h.refundsOrderGid, h.orderGid]
    exact hx.sameGid
  · rw [h.completeness]
    exact hx.lineItemsComplete
  · rw [h.completeness]
    exact hx.fulfillmentOrdersComplete
  · rw [h.completeness]
    exact hx.fulfillmentLinesComplete
  · rw [h.refundsListComplete]
    exact hx.refundsComplete
  · intro hnil
    have hperm := h.lineItems
    rw [hnil] at hperm
    exact hx.lines hperm.eq_nil
  · rw [h.canonicalLines]
    exact hx.canonicalLines
  · rw [h.canonicalLines]
    exact hx.canonicalSeparate
  · exact hallocation
  · rw [h.canonicalLines]
    refine (h.lineItems.pairwise_iff fun {a b} hab => ?_).mp hx.allocationSeparate
    exact ⟨hab.1.symm, fun c d hc hd => (hab.2 d c hd hc).symm⟩
  · intro r hr
    obtain ⟨r₀, hr₀, hpermuted⟩ := h.refunds.exists_left hr
    obtain ⟨hnames, hlines, htransactions, hknown, hidentified, -⟩ := hx.refunds r₀ hr₀
    refine ⟨?_, ?_, ?_, ?_, ?_, hown r hr⟩
    · rw [hpermuted.refundGid, hpermuted.same.sourceShopifyRefundId]
      exact hnames
    · rw [hpermuted.same.lineItemPaginationComplete]
      exact hlines
    · rw [hpermuted.same.transactionPaginationComplete]
      exact htransactions
    · exact fun t ht => hknown t (hpermuted.transactions.mem_iff.mpr ht)
    · exact fun line hl => hidentified line (hpermuted.refundLineItems.mem_iff.mpr hl)
  · exact hpairs.imp fun hab line hline other hother => hab other hother line hline
  · have hperm := h.refunds.map_perm (f := (·.sourceShopifyRefundId))
      (g := (·.sourceShopifyRefundId)) fun _ _ hr => hr.same.sourceShopifyRefundId.symm
    exact hperm.nodup_iff.mp hx.refundIds
  · intro o ho line hline
    obtain ⟨o₀, ho₀, hpermuted⟩ := h.fulfillmentOrders.exists_left ho
    obtain ⟨hid, hlineItem, hclaimed⟩ :=
      hx.fulfillment o₀ ho₀ line (hpermuted.lineItems.mem_iff.mpr hline)
    refine ⟨hid, hlineItem, fun hmem => ?_⟩
    rw [hpermuted.id, hpermuted.status]
    exact hclaimed (((h.resolved_perm.map _).mem_iff).mpr hmem)

/-- Whether an allocation qualifies does not depend on the order of lists. -/
lemma qualifies_of (hx : x.Qualifies toUpperCase) : y.Qualifies toUpperCase := by
  have hverdict := (h.sameRefunds.sameAnswer hbars hfits).1.verdict
  refine ⟨h.identified hx.identified, ?_, ?_, fun p hp => ?_, fun p hp => ?_⟩
  · exact (congrArg Verdict.classification hverdict).trans hx.monetary
  · exact (congrArg Verdict.reasonCode hverdict).trans hx.verified
  · rw [← h.verifiedQuantity_eq hbars hfits]
    exact hx.refunded p (h.resolved_perm.mem_iff.mpr hp)
  · rw [← hx.remaining p (h.resolved_perm.mem_iff.mpr hp)]
    exact (((h.openLines_perm p.2).map _).sum_eq).symm

lemma qualifies : x.Qualifies toUpperCase ↔ y.Qualifies toUpperCase :=
  ⟨h.qualifies_of hbars hfits, h.symm.qualifies_of (h.sameRefunds.unambiguous hbars)
    (h.sameRefunds.fits hfits)⟩

end Permuted

/-! ## The decision is exact -/

/-- The same support of a line, up to the order of its lists. -/
structure SameSupport (s s' : SupportingRefund) : Prop where
  shopifyRefundGid : s'.shopifyRefundGid = s.shopifyRefundGid
  refundLineItems : s.refundLineItems.Perm s'.refundLineItems
  transactions : s.transactions.Perm s'.transactions

/-- The same evidence for a line, up to the order of its lists. -/
structure SameEvidenceLine (e e' : TerminalEvidenceLine) : Prop where
  vendorAllocationLineItemId : e'.vendorAllocationLineItemId = e.vendorAllocationLineItemId
  shopifyLineItemGid : e'.shopifyLineItemGid = e.shopifyLineItemGid
  ownedQuantity : e'.ownedQuantity = e.ownedQuantity
  refundedQuantity : e'.successfullyRefundedQuantity = e.successfullyRefundedQuantity
  remainingQuantity : e'.remainingFulfillableQuantity = e.remainingFulfillableQuantity
  refunds : Reordered SameSupport e.refunds e'.refunds
  fulfillmentOrderLines : e.fulfillmentOrderLines.Perm e'.fulfillmentOrderLines

/-- The same answer `QUALIFIES`, up to the order of its lists. -/
structure SameQualification (q q' : TerminalQualification) : Prop where
  shopifyOrderGid : q'.shopifyOrderGid = q.shopifyOrderGid
  lines : Reordered SameEvidenceLine q.lines q'.lines

section Exact

variable {x y : TerminalInput}

lemma successfulTransactions_perm {r r' : RefundSnapshot} (hr : PermutedRefund r r') :
    (successfulTransactions toUpperCase r).Perm (successfulTransactions toUpperCase r') := by
  obtain ⟨hnodup, hmem⟩ := @successfulTransactions_spec toUpperCase r
  obtain ⟨hnodup', hmem'⟩ := @successfulTransactions_spec toUpperCase r'
  rw [List.perm_ext_iff_of_nodup hnodup hnodup']
  intro gid
  rw [hmem, hmem']
  simp only [hr.transactions.mem_iff]

/-- The evidence of a line, up to the order of its lists. -/
lemma Permuted.sameEvidenceLine (h : Permuted x y)
    (hbars : x.refundCollection.Unambiguous toUpperCase)
    (hfits : x.refundCollection.Fits toUpperCase)
    (p : TerminalAllocationLine × CanonicalOrderLine) :
    SameEvidenceLine (x.evidenceLine toUpperCase p) (y.evidenceLine toUpperCase p) := by
  refine ⟨rfl, rfl, rfl, (h.verifiedQuantity_eq hbars hfits p.2).symm, ?_, ?_,
    h.openLines_perm p.2⟩
  · exact (((h.openLines_perm p.2).map _).sum_eq).symm
  · refine (h.refunds.filter fun r r' hr => ?_).map fun r r' hr => ?_
    · have hnil : matchingRefundLines p.2 r = [] ↔ matchingRefundLines p.2 r' = [] := by
        have hperm := matchingRefundLines_perm hr p.2
        exact ⟨fun hn => (hn ▸ hperm).symm.eq_nil, fun hn => (hn ▸ hperm).eq_nil⟩
      exact decide_eq_decide.mpr
        (and_congr (not_congr hnil) (h.verifiedRefund_iff hbars hfits hr))
    · exact ⟨hr.refundGid, (matchingRefundLines_perm hr p.2).map _,
        successfulTransactions_perm hr⟩

/-- **The full-refund terminal decision is exact.**  It answers `QUALIFIES` exactly on allocations
that are refunded in full; its evidence accounts for every line; and neither the answer nor, up to
its own order, the evidence depends on the order of the lists that are compared. -/
theorem verifyAllocationFullRefundTerminal_exact (x : TerminalInput)
    (hblank : ∀ l ∈ x.orderSnapshot.lineItems, trim l.lineItemGid = l.lineItemGid) :
    ((∃ q, verifyAllocationFullRefundTerminal toUpperCase x = .ok q) ↔
      x.Qualifies toUpperCase) ∧
    (∀ q, verifyAllocationFullRefundTerminal toUpperCase x = .ok q →
      q.shopifyOrderGid = x.orderSnapshot.orderGid ∧
      q.lines.map (·.vendorAllocationLineItemId) = x.allocation.lineItems.map (·.id) ∧
      ∀ line ∈ q.lines,
        LineAccount (x.evidence toUpperCase) x.refundCollection.refunds line) ∧
    (x.refundCollection.Unambiguous toUpperCase → x.refundCollection.Fits toUpperCase →
      ∀ y, Permuted x y →
        ((∃ q, verifyAllocationFullRefundTerminal toUpperCase y = .ok q) ↔
          ∃ q, verifyAllocationFullRefundTerminal toUpperCase x = .ok q) ∧
        ∀ q q', verifyAllocationFullRefundTerminal toUpperCase x = .ok q →
          verifyAllocationFullRefundTerminal toUpperCase y = .ok q' →
            SameQualification q q') := by
  refine ⟨?_, fun q hq => ?_, fun hbars hfits y h => ?_⟩
  · simp only [verify_eq_ok hblank, exists_and_left, exists_eq, and_true]
  · obtain ⟨hqualifies, rfl⟩ := (verify_eq_ok hblank).mp hq
    refine ⟨rfl, hqualifies.map_id, fun line hline => ?_⟩
    obtain ⟨p, hp, rfl⟩ := List.mem_map.mp hline
    exact hqualifies.lineAccount hp
  · have hblank' : ∀ l ∈ y.orderSnapshot.lineItems, trim l.lineItemGid = l.lineItemGid := by
      rw [h.canonicalLines]
      exact hblank
    refine ⟨?_, fun q q' hq hq' => ?_⟩
    · simp only [verify_eq_ok hblank, verify_eq_ok hblank', exists_and_left, exists_eq, and_true]
      exact (h.qualifies hbars hfits).symm
    · obtain ⟨-, rfl⟩ := (verify_eq_ok hblank).mp hq
      obtain ⟨-, rfl⟩ := (verify_eq_ok hblank').mp hq'
      refine ⟨h.orderGid, ?_⟩
      refine Reordered.map (Reordered.of_perm (R := (· = ·)) (fun _ => rfl) h.resolved_perm) ?_
      rintro p _ rfl
      exact h.sameEvidenceLine hbars hfits p

end Exact

section Samples

def lineGid (id : String) : String := "gid://shopify/LineItem/" ++ id

def allocationLine (id : String) (quantity : ℚ) : TerminalAllocationLine :=
  ⟨"allocation-" ++ id, "local-" ++ id, quantity, some ⟨"local-" ++ id, id⟩⟩

def refundLine (id lineId : String) : RefundLineItem :=
  ⟨"gid://shopify/RefundLineItem/" ++ id, some (lineGid lineId), some lineId, 1⟩

/-- An order of two lines, with one refund of 10, its transactions and its lines. -/
def refundedAllocation (lineItems : List TerminalAllocationLine)
    (refundLineItems : List RefundLineItem)
    (transactions : List Shopify.RefundTransaction := [successfulRefund "t1" "10"]) :
    TerminalInput where
  allocation := ⟨some "1", lineItems⟩
  orderSnapshot := ⟨"gid://shopify/Order/1", "1", [⟨lineGid "1", "1"⟩, ⟨lineGid "2", "2"⟩],
    [⟨"gid://shopify/FulfillmentOrder/1", some "OPEN",
      [⟨"gid://shopify/FulfillmentOrderLineItem/1", some (lineGid "1"), some 0⟩]⟩]⟩
  refundCollection := refundedOrder "10" "USD"
    [⟨"gid://shopify/Refund/1", "1", some "10", some "USD", true, true,
      transactions, refundLineItems⟩]
  completeness := ⟨true, true, true⟩

def twoRefundLines : List RefundLineItem := [refundLine "1" "1", refundLine "2" "1"]

lemma refundedAllocation_unambiguous (lineItems : List TerminalAllocationLine)
    (refundLineItems : List RefundLineItem) :
    (refundedAllocation lineItems refundLineItems).refundCollection.Unambiguous id := by
  intro p hp
  have hwords : ∀ q ∈ entries id [successfulRefund "t1" "10"], '|' ∉ q.2.kind.toList ∧
      '|' ∉ q.2.status.toList ∧ '|' ∉ q.2.money.currency.toList := by
    decide +kernel
  obtain ⟨hkind, hstatus, hcurrency⟩ := hwords p hp
  exact ⟨hkind, hstatus, hcurrency⟩

lemma refundedAllocation_fits (lineItems : List TerminalAllocationLine)
    (refundLineItems : List RefundLineItem) :
    (refundedAllocation lineItems refundLineItems).refundCollection.Fits id := by
  have hsupports : (supports id [successfulRefund "t1" "10"]).map Prod.snd = [10] := by
    decide +kernel
  have htotal : parseMoney id (some "10") (some "USD") = some ⟨10, false, "10", "USD"⟩ := by
    decide +kernel
  have htotals : (refundedAllocation lineItems refundLineItems).refundCollection.refundTotals id =
      [10] := by
    show List.filterMap _ [_] = [10]
    simp only [RefundSnapshot.total, htotal, List.filterMap_cons, Option.map_some,
      List.filterMap_nil]
  have hexact : ExactlySummable PRECISION [10] := by
    refine ⟨0, fun x hx => ?_, ?_⟩
    · rw [List.mem_singleton.mp hx]
      exact ⟨10, by norm_num⟩
    · norm_num [PRECISION]
  exact ⟨hsupports ▸ hexact, htotals ▸ hexact⟩

lemma refundedAllocation_permuted {lineItems lineItems' : List TerminalAllocationLine}
    {refundLineItems refundLineItems' : List RefundLineItem}
    {transactions transactions' : List Shopify.RefundTransaction} (hlines : lineItems.Perm lineItems')
    (hrefundLines : refundLineItems.Perm refundLineItems')
    (htransactions : transactions.Perm transactions') :
    Permuted (refundedAllocation lineItems refundLineItems transactions)
      (refundedAllocation lineItems' refundLineItems' transactions') := by
  refine ⟨rfl, hlines, rfl, rfl, rfl, ?_, rfl, rfl, rfl, rfl, rfl, rfl, ?_⟩
  · exact Reordered.of_perm (fun _ => ⟨rfl, rfl, List.Perm.refl _⟩) (List.Perm.refl _)
  · refine Reordered.of_forall₂ (List.Forall₂.cons ?_ List.Forall₂.nil)
    exact ⟨rfl, ⟨rfl, rfl, rfl, rfl, rfl, fun _ => htransactions.symm.mem_iff⟩, htransactions,
      hrefundLines⟩

theorem verifyAllocationFullRefundTerminal_exact_sample :
    (refundedAllocation [allocationLine "1" 2] twoRefundLines).Qualifies id ∧
      ∃ q, verifyAllocationFullRefundTerminal id
        (refundedAllocation [allocationLine "1" 2] twoRefundLines.reverse) = .ok q := by
  have hblank : ∀ l ∈ (refundedAllocation [allocationLine "1" 2] twoRefundLines).orderSnapshot.lineItems,
      trim l.lineItemGid = l.lineItemGid := by
    decide +kernel
  have hexact := @verifyAllocationFullRefundTerminal_exact id
    (refundedAllocation [allocationLine "1" 2] twoRefundLines) hblank
  have hok : (verifyAllocationFullRefundTerminal id
      (refundedAllocation [allocationLine "1" 2] twoRefundLines)).toOption.isSome := by
    decide +kernel
  have hq : ∃ q, verifyAllocationFullRefundTerminal id
      (refundedAllocation [allocationLine "1" 2] twoRefundLines) = .ok q := by
    obtain ⟨q, hq⟩ := Option.isSome_iff_exists.mp hok
    exact ⟨q, toOption_eq_some.mp hq⟩
  refine ⟨hexact.1.mp hq, ?_⟩
  exact ((hexact.2.2 (refundedAllocation_unambiguous _ _) (refundedAllocation_fits _ _) _
    (refundedAllocation_permuted (List.Perm.refl _) (List.reverse_perm _).symm
      (List.Perm.refl _))).1).mpr hq

/-- Two transactions that are confused, as the currency of one contains the separator. -/
def joinedCurrency : List Shopify.RefundTransaction :=
  [⟨"t1", some "REFUND", some "SUCCESS", some "10", some "USD", some "P|"⟩,
    ⟨"t1", some "REFUND", some "SUCCESS", some "10", some "USD|P", none⟩]

/-- Of two lines, one refunded too much and one not at all, the first decides; and of two
transactions that are confused the first is looked at. -/
theorem verifyAllocationFullRefundTerminal_first_line :
    (Permuted (refundedAllocation [allocationLine "1" 1, allocationLine "2" 1] twoRefundLines)
        (refundedAllocation [allocationLine "2" 1, allocationLine "1" 1] twoRefundLines) ∧
      verifyAllocationFullRefundTerminal id
          (refundedAllocation [allocationLine "1" 1, allocationLine "2" 1] twoRefundLines) =
        .error (.indeterminate .canonicalRefundQuantityExceedsOwnedQuantity) ∧
      verifyAllocationFullRefundTerminal id
          (refundedAllocation [allocationLine "2" 1, allocationLine "1" 1] twoRefundLines) =
        .error (.doesNotQualify .refundQuantityBelowOwnedQuantity)) ∧
    (Permuted (refundedAllocation [allocationLine "1" 2] twoRefundLines joinedCurrency)
        (refundedAllocation [allocationLine "1" 2] twoRefundLines joinedCurrency.reverse) ∧
      (verifyAllocationFullRefundTerminal id
        (refundedAllocation [allocationLine "1" 2] twoRefundLines joinedCurrency)).isOk = true ∧
      (verifyAllocationFullRefundTerminal id (refundedAllocation [allocationLine "1" 2]
        twoRefundLines joinedCurrency.reverse)).isOk = false) := by
  refine ⟨⟨?_, by decide +kernel, by decide +kernel⟩, ?_, by decide +kernel, by decide +kernel⟩
  · exact refundedAllocation_permuted (List.Perm.swap _ _ _) (List.Perm.refl _) (List.Perm.refl _)
  · exact refundedAllocation_permuted (List.Perm.refl _) (List.Perm.refl _)
      (List.reverse_perm _).symm

end Samples

end VendorDashboard.Orders

import VendorDashboard.Shopify.MissedOrderDiscovery
import VendorDashboard.Framework.Run

/-!
# What the discovery of missed orders covers

A run with a positive cap terminates, and when it reports to be complete, every order that Shopify
served is local, left to the executor, or the subject of an active signal.  The invariant is `Done`:
while the run is still complete, this holds of every order scanned so far but those that are still
queued on the page.

A cap that is not positive, which the configuration refuses, makes the run end at once and report to
be complete (`missedOrderDiscovery_noCap`).
-/

namespace VendorDashboard.Shopify

open Finance (Id Instant)
open Table Text Transaction Run

/-! ## The ids of the signals -/

lemma LegacyResourceId.isDigit (id : LegacyResourceId) {c : Char} (hc : c ∈ id.text.toList) :
    '0' ≤ c ∧ c ≤ '9' := by
  have h := id.decimal
  unfold isPositiveDecimal at h
  split at h
  next => cases h
  next d ds hlist =>
    simp only [Bool.and_eq_true, decide_eq_true_eq, List.all_eq_true] at h
    rw [hlist] at hc
    rcases List.mem_cons.mp hc with rfl | hc
    · have hone : '0' ≤ '1' := by decide
      exact ⟨Char.le_trans hone h.1.1, h.1.2⟩
    · exact h.2 c hc

lemma LegacyResourceId.toList_ne_nil (id : LegacyResourceId) : id.text.toList ≠ [] := by
  intro hnil
  have h := id.decimal
  unfold isPositiveDecimal at h
  rw [hnil] at h
  cases h

lemma dashRuns_eq_self {l : List Char} (h : ∀ c ∈ l, '0' ≤ c ∧ c ≤ '9') (inRun : Bool) :
    dashRuns inRun l = l := by
  induction l generalizing inRun with
  | nil => rfl
  | cons c cs ih =>
      have hc : ('a' ≤ c ∧ c ≤ 'z') ∨ ('0' ≤ c ∧ c ≤ '9') := .inr (h c (by simp))
      rw [dashRuns, if_pos hc, ih fun d hd => h d (List.mem_cons_of_mem c hd)]

lemma dropDash_eq_self {l : List Char} (h : ∀ c ∈ l, '0' ≤ c ∧ c ≤ '9') : dropDash l = l := by
  unfold dropDash
  split
  next cs => exact absurd (h '-' (by simp)).1 (by decide)
  next => rfl

lemma toNat_of_isDigit {c : Char} (h : '0' ≤ c ∧ c ≤ '9') : 48 ≤ c.toNat ∧ c.toNat ≤ 57 :=
  ⟨UInt32.le_iff_toNat_le.mp h.1, UInt32.le_iff_toNat_le.mp h.2⟩

lemma lowerChar_of_isDigit {c : Char} (h : '0' ≤ c ∧ c ≤ '9') : lowerChar c = [c] := by
  have hhigh : c.toNat ≤ 57 := (toNat_of_isDigit h).2
  have hlower : c.toLower = c := by
    unfold Char.toLower
    split
    next hupper =>
      have hA : 'A'.toNat ≤ c.toNat := UInt32.le_iff_toNat_le.mp hupper.1
      have h65 : 'A'.toNat = 65 := rfl
      omega
    next => rfl
  unfold lowerChar
  rw [if_pos (by omega), hlower]

/-- The id of an order is left as it is. -/
lemma sanitizeSignalPart_text (id : LegacyResourceId) : sanitizeSignalPart id.text = id.text := by
  have hdigit : ∀ c ∈ id.text.toList, '0' ≤ c ∧ c ≤ '9' := fun _ => id.isDigit
  have htrim : trim id.text = id.text := trim_eq_self fun c hc => isSpace_of_digit (hdigit c hc)
  have hlower : toLowerCase id.text = id.text := by
    unfold toLowerCase
    have hmap : id.text.toList.flatMap lowerChar = id.text.toList.flatMap fun c => [c] :=
      List.flatMap_congr fun c hc => lowerChar_of_isDigit (hdigit c hc)
    rw [hmap, List.flatMap_singleton', String.ofList_toList]
  have hne : id.text ≠ "" := fun h => id.toList_ne_nil (by rw [h]; rfl)
  unfold sanitizeSignalPart
  simp only [htrim, hlower, dashRuns_eq_self hdigit, dropDash_eq_self hdigit]
  rw [dropDash_eq_self fun c hc => hdigit c (List.mem_reverse.mp hc), List.reverse_reverse,
    String.ofList_toList, if_neg hne]

lemma buildMissedOrderSignalId_inj {a b : LegacyResourceId}
    (h : buildMissedOrderSignalId a.text = buildMissedOrderSignalId b.text) : a.text = b.text := by
  unfold buildMissedOrderSignalId at h
  rw [sanitizeSignalPart_text, sanitizeSignalPart_text] at h
  have hlist := congrArg String.toList h
  rw [String.toList_append, String.toList_append] at hlist
  exact String.toList_inj.mp (List.append_cancel_left hlist)

/-- No signal of an order has the id of a signal about the run. -/
lemma buildMissedOrderSignalId_ne (id : String) :
    buildMissedOrderSignalId id ≠ DISCOVERY_TRUNCATION_SIGNAL_ID ∧
      buildMissedOrderSignalId id ≠ DISCOVERY_FAILURE_SIGNAL_ID := by
  have hprefix : (buildMissedOrderSignalId id).toList.take 34 =
      "signal-diagnostics-shopify-order-m".toList := by
    unfold buildMissedOrderSignalId
    rw [String.toList_append, List.take_append_of_le_length (by decide)]
    decide
  constructor
  all_goals
    intro h
    rw [h] at hprefix
    revert hprefix
    decide

/-! ## The signals -/

/-- The signal is about a missing order. -/
def OperationalSignal.Missing (r : OperationalSignal) : Prop := r.type = MISSED_ORDER_SIGNAL_TYPE

instance (r : OperationalSignal) : Decidable r.Missing := inferInstanceAs (Decidable (_ = _))

namespace DiscoveryStore

variable {s : DiscoveryStore} {signal r : OperationalSignal} {ids : List String} {now : Instant}

/-- Every signal about a missing order is the one that its order has. -/
structure WellFormed (s : DiscoveryStore) : Prop where
  key : KeyUnique OperationalSignal.id s.signals
  order : ∀ r ∈ s.signals, r.Missing → ∃ o : LegacyResourceId,
    r.id = buildMissedOrderSignalId o.text ∧ r.metadata.sourceShopifyOrderId = some o.text

lemma mem_upsertSignal (h : r ∈ (s.upsertSignal signal).signals) :
    (r ∈ s.signals ∧ r.id ≠ signal.id) ∨ ∃ t, r = { signal with triggeredAt := t } := by
  unfold upsertSignal at h
  split at h
  next =>
    obtain ⟨x, hx, rfl⟩ := mem_updateWhere.mp h
    by_cases hid : x.id = signal.id
    · exact .inr ⟨x.triggeredAt, by simp [hid]⟩
    · exact .inl ⟨by simpa [hid] using hx, by simp [hid]⟩
  next hnot =>
    rcases List.mem_append.mp h with hr | hr
    · exact .inl ⟨hr, fun hid => hnot (List.mem_map.mpr ⟨r, hr, hid⟩)⟩
    · exact .inr ⟨signal.triggeredAt, List.mem_singleton.mp hr⟩

/-- The signal is there afterwards. -/
lemma exists_upsertSignal (s : DiscoveryStore) (signal : OperationalSignal) :
    ∃ t, { signal with triggeredAt := t } ∈ (s.upsertSignal signal).signals := by
  unfold upsertSignal
  split
  next h =>
    obtain ⟨x, hx, hid⟩ := List.mem_map.mp h
    exact ⟨x.triggeredAt, mem_updateWhere.mpr ⟨x, hx, by simp [hid]⟩⟩
  next => exact ⟨signal.triggeredAt, List.mem_append_right _ (List.mem_singleton.mpr rfl)⟩

/-- The others stay. -/
lemma mem_upsertSignal_of_ne (hr : r ∈ s.signals) (hid : r.id ≠ signal.id) :
    r ∈ (s.upsertSignal signal).signals := by
  unfold upsertSignal
  split
  next => exact mem_updateWhere.mpr ⟨r, hr, by simp [hid]⟩
  next => exact List.mem_append_left _ hr

lemma key_upsertSignal (h : KeyUnique OperationalSignal.id s.signals) :
    KeyUnique OperationalSignal.id (s.upsertSignal signal).signals := by
  unfold upsertSignal
  split
  next =>
    unfold KeyUnique at h ⊢
    have hmap : (updateWhere (fun r => decide (r.id = signal.id))
        (fun r => { signal with triggeredAt := r.triggeredAt }) s.signals).map (·.id) =
          s.signals.map (·.id) := by
      unfold updateWhere
      rw [List.map_map]
      refine List.map_congr_left fun r _ => ?_
      by_cases hid : r.id = signal.id <;> simp [hid]
    rw [hmap]
    exact h
  next hnot =>
    refine keyUnique_append.mpr ⟨h, by simp [KeyUnique], fun x hx y hy => ?_⟩
    obtain rfl := List.mem_singleton.mp hy
    exact fun hid => hnot (List.mem_map.mpr ⟨x, hx, hid⟩)

lemma mem_resolveSignals : r ∈ (s.resolveSignals ids now).signals ↔ ∃ x ∈ s.signals,
    (x.id ∈ ids ∧ x.Open ∧ r = x.resolve now) ∨ (¬(x.id ∈ ids ∧ x.Open) ∧ r = x) := by
  unfold resolveSignals
  rw [mem_updateWhere]
  refine exists_congr fun x => and_congr_right fun _ => ?_
  by_cases h : x.id ∈ ids ∧ x.Open
  · simp [h, eq_comm]
  · have hfalse : (decide (x.id ∈ ids) && decide x.Open) = false := by
      simpa using h
    simp only [hfalse, Bool.false_eq_true, if_false, h, not_false_eq_true, true_and]
    constructor
    · exact fun heq => .inr heq.symm
    · rintro (⟨hid, hopen, -⟩ | heq)
      · exact absurd ⟨hid, hopen⟩ h
      · exact heq.symm

lemma WellFormed.upsertSignal (h : s.WellFormed)
    (hsignal : signal.Missing → ∃ o : LegacyResourceId,
      signal.id = buildMissedOrderSignalId o.text ∧
        signal.metadata.sourceShopifyOrderId = some o.text) :
    (s.upsertSignal signal).WellFormed := by
  refine ⟨key_upsertSignal h.key, fun r hr hmissing => ?_⟩
  rcases mem_upsertSignal hr with ⟨hr, -⟩ | ⟨t, rfl⟩
  · exact h.order r hr hmissing
  · exact hsignal hmissing

lemma WellFormed.resolveSignals (h : s.WellFormed) : (s.resolveSignals ids now).WellFormed := by
  refine ⟨h.key.updateWhere fun _ => rfl, fun r hr hmissing => ?_⟩
  obtain ⟨x, hx, ⟨-, -, rfl⟩ | ⟨-, rfl⟩⟩ := mem_resolveSignals.mp hr
  · exact h.order x hx hmissing
  · exact h.order r hx hmissing

/-- The entries of the open signals, before those with one order are brought together. -/
def missingEntries (s : DiscoveryStore) : List (String × String) :=
  (s.signals.filter fun r => decide (r.type = MISSED_ORDER_SIGNAL_TYPE) && decide r.Open).filterMap
    fun r => (r.metadata.sourceShopifyOrderId.filter fun id => decide (id ≠ "")).map (·, r.id)

lemma mem_missingEntries {e : String × String} : e ∈ s.missingEntries ↔ ∃ r ∈ s.signals,
    r.Missing ∧ r.Open ∧ r.metadata.sourceShopifyOrderId = some e.1 ∧ e.1 ≠ "" ∧ r.id = e.2 := by
  unfold missingEntries
  simp only [List.mem_filterMap, List.mem_filter, Bool.and_eq_true, decide_eq_true_eq,
    Option.map_eq_some_iff, Option.filter_eq_some_iff]
  constructor
  · rintro ⟨r, ⟨hr, hmissing, hopen⟩, source, ⟨hsource, hne⟩, rfl⟩
    exact ⟨r, hr, hmissing, hopen, hsource, hne, rfl⟩
  · rintro ⟨r, hr, hmissing, hopen, hsource, hne, hid⟩
    exact ⟨r, ⟨hr, hmissing, hopen⟩, e.1, ⟨hsource, hne⟩, by rw [hid]⟩

lemma WellFormed.of_mem_missingEntries (h : s.WellFormed) {e : String × String}
    (he : e ∈ s.missingEntries) :
    ∃ o : LegacyResourceId, e.1 = o.text ∧ e.2 = buildMissedOrderSignalId o.text := by
  obtain ⟨r, hr, hmissing, -, hsource, -, hid⟩ := mem_missingEntries.mp he
  obtain ⟨o, hbuild, horder⟩ := h.order r hr hmissing
  exact ⟨o, Option.some.inj (hsource.symm.trans horder), hid.symm.trans hbuild⟩

lemma WellFormed.of_mem_listMissingOrderSignals (h : s.WellFormed) {e : String × String}
    (he : e ∈ s.listMissingOrderSignals) :
    ∃ o : LegacyResourceId, e.1 = o.text ∧ e.2 = buildMissedOrderSignalId o.text :=
  h.of_mem_missingEntries (List.mem_filter.mp he).1

/-- Every open signal about a missing order is listed, under its order. -/
lemma WellFormed.mem_listMissingOrderSignals (h : s.WellFormed) (hr : r ∈ s.signals)
    (hmissing : r.Missing) (hopen : r.Open) {o : LegacyResourceId}
    (hid : r.id = buildMissedOrderSignalId o.text) :
    (o.text, r.id) ∈ s.listMissingOrderSignals := by
  have hne : o.text ≠ "" := fun heq => o.toList_ne_nil (by rw [heq]; rfl)
  have hmem : (o.text, r.id) ∈ s.missingEntries := by
    obtain ⟨o', hid', hsource⟩ := h.order r hr hmissing
    have ho : o.text = o'.text := buildMissedOrderSignalId_inj (hid.symm.trans hid')
    exact mem_missingEntries.mpr ⟨r, hr, hmissing, hopen, by rw [hsource, ho], hne, rfl⟩
  refine List.mem_filter.mpr ⟨hmem, ?_⟩
  -- the last entry of the order has the same id
  have hsome : (o.text, r.id) ∈ s.missingEntries.filter fun e => decide (e.1 = o.text) :=
    List.mem_filter.mpr ⟨hmem, decide_eq_true rfl⟩
  obtain ⟨last, hlast⟩ : ∃ last, (s.missingEntries.filter fun e => decide (e.1 = o.text)).getLast? =
      some last :=
    ⟨_, List.getLast?_eq_some_getLast (List.ne_nil_of_mem hsome)⟩
  have hlastmem := List.mem_filter.mp (List.mem_of_getLast? hlast)
  obtain ⟨o', hsource, hbuild⟩ := h.of_mem_missingEntries hlastmem.1
  have hkey : last.1 = o.text := of_decide_eq_true hlastmem.2
  have hlastid : last.2 = r.id := by rw [hbuild, hid, ← hsource, hkey]
  unfold missingEntries at hlast
  simp only [hlast, Option.any_some, hlastid, decide_true]

end DiscoveryStore

/-! ## The properties -/

/-- The order is local, left to the executor, or the subject of an active signal. -/
def DiscoveryStore.Covers (input : DiscoveryInput) (s : DiscoveryStore)
    (order : RecentShopifyOrderIdentity) : Prop :=
  order.sourceShopifyOrderId.text ∈ s.localOrders ∨
    (input.executorEnabled = true ∧ (findAuthoritativeOrdersCreateIntake s.intakes
      order.sourceShopifyOrderId.text input.now).isSome) ∨
    ∃ r ∈ s.signals, r.id = buildMissedOrderSignalId order.sourceShopifyOrderId.text ∧
      r.Missing ∧ r.status = .active

/-- The node is an order with a date, and covered if it is in the window. -/
def DiscoveryStore.CoversNode (input : DiscoveryInput) (s : DiscoveryStore)
    (pending : List RecentShopifyOrderIdentity) (node : RecentOrderNode) : Prop :=
  ∃ order, node.toOrder = some order ∧ ∃ t, order.shopifyCreatedAt.time = some t ∧
    (input.InWindow t → order ∈ pending ∨ s.Covers input order)

namespace DiscoveryState

variable (input : DiscoveryInput) (orders : List RecentOrderNode) (s₀ : DiscoveryStore)
  (d : DiscoveryState)

/-- Every open signal about a missing order is one of an order that was not local when last
checked. -/
def Settled : Prop :=
  ∀ r ∈ d.store.signals, r.Missing → r.Open → ∀ o : LegacyResourceId,
    r.id = buildMissedOrderSignalId o.text → d.checked o.text = some false

/-- A signal about a missing order that is resolved was so before, or its order is local. -/
def ResolvesOnlyLocal : Prop :=
  ∀ r ∈ d.store.signals, r.Missing → r.status = .resolved → r ∈ s₀.signals ∨
    ∃ o : LegacyResourceId, r.id = buildMissedOrderSignalId o.text ∧ o.text ∈ d.store.localOrders

/-! ## The invariant -/

/-- While the run is complete, the orders scanned so far are covered, but for those pending. -/
def Done (pending : List RecentShopifyOrderIdentity) : Prop :=
  d.report.complete = true → ∀ node ∈ orders.take d.report.ordersScanned,
    d.store.CoversNode input pending node

/-- What the end of the page says of the orders that follow. -/
def PageEnd (hasNextPage : Bool) (endCursor : Option ℕ) : Prop :=
  hasNextPage = decide (d.report.ordersScanned < orders.length) ∧
    endCursor = if d.report.ordersScanned < orders.length then some d.report.ordersScanned else none

structure OnPage (page : DiscoveryPage) : Prop where
  pageEnd : d.PageEnd orders page.hasNextPage page.endCursor
  localIds : ∀ id ∈ page.localIds, id ∈ d.store.localOrders

/-- The intakes of the queued orders. -/
def Queued (queue : List (RecentShopifyOrderIdentity × Option AuthoritativeOrdersCreateIntake)) :
    Prop :=
  ∀ e ∈ queue, e.2 = findAuthoritativeOrdersCreateIntake d.store.intakes
    e.1.sourceShopifyOrderId.text input.now

/-- All orders were scanned, and are covered. -/
structure Finished : Prop where
  complete : d.report.complete = true
  scanned : orders.length ≤ d.report.ordersScanned
  done : d.Done input orders []

def InPosition : Prop :=
  match d.position with
  | .fetch after => after.getD 0 = d.report.ordersScanned ∧
      (d.report.ordersScanned : ℤ) < input.maxOrders ∧ d.Done input orders []
  | .readLocal hasNextPage endCursor pending =>
      d.PageEnd orders hasNextPage endCursor ∧ d.Done input orders pending
  | .readIntakes page pending => d.OnPage orders page ∧ d.Done input orders pending
  | .beforeWrite page order _ queue | .findSignal page order _ queue
  | .upsertSignal page order _ _ queue =>
      d.OnPage orders page ∧ d.Queued input queue ∧
        d.Done input orders (order :: queue.map (·.1))
  | .afterWrite page _ queue =>
      d.OnPage orders page ∧ d.Queued input queue ∧ d.Done input orders (queue.map (·.1))
  | .resolveWritten page order queue => d.isLocal order ∧
      d.OnPage orders page ∧ d.Queued input queue ∧ d.Done input orders (queue.map (·.1))
  | .upsertTruncation => d.report.truncated = true
  | .resolveTruncation | .listSignals => d.Finished input orders
  | .findLocal bySourceId => d.Finished input orders ∧
      (∀ r ∈ d.store.signals, r.Missing → r.Open → ∀ o : LegacyResourceId,
        r.id = buildMissedOrderSignalId o.text → (o.text, r.id) ∈ bySourceId) ∧
      ∀ e ∈ bySourceId, ∃ o : LegacyResourceId, e.1 = o.text ∧
        e.2 = buildMissedOrderSignalId o.text
  | .resolveLocal ids => d.Finished input orders ∧
      (∀ r ∈ d.store.signals, r.Missing → r.Open → ∀ o : LegacyResourceId,
        r.id = buildMissedOrderSignalId o.text → r.id ∈ ids ∨ d.checked o.text = some false) ∧
      ∀ id ∈ ids, ∃ o : LegacyResourceId, id = buildMissedOrderSignalId o.text ∧
        o.text ∈ d.store.localOrders
  | .resolveFailure => d.Finished input orders ∧ d.Settled
  | .upsertFailure => d.report.complete = false
  | .ended (.ok report) => report = d.report ∧
      (report.complete = true → d.Finished input orders ∧ d.Settled)
  | .ended (.error _) => True

/-- The loop over the pages is over. -/
def LoopOver : Prop :=
  match d.position with
  | .upsertTruncation | .resolveTruncation | .listSignals | .findLocal _ | .resolveLocal _
  | .resolveFailure | .upsertFailure | .ended _ => True
  | _ => False

/-- When the cap was reached before the end, the run is truncated. -/
def Decided : Prop :=
  d.interrupted = false → input.maxOrders ≤ d.report.ordersScanned →
    d.report.ordersScanned < orders.length → d.report.truncated = true

/-- What does not depend on the position. -/
structure Base : Prop where
  wellFormed : d.store.WellFormed
  resolved : d.ResolvesOnlyLocal s₀
  scanned : d.report.ordersScanned ≤ orders.length
  truncated : d.report.truncated = true → d.report.complete = false ∧
    input.maxOrders ≤ d.report.ordersScanned ∧ d.report.ordersScanned < orders.length

structure Invariant : Prop where
  base : d.Base input orders s₀
  position : d.InPosition input orders
  decided : d.LoopOver → d.Decided input orders

variable {input orders s₀ d} {pending : List RecentShopifyOrderIdentity}

/-! ## The end of a page and of the run -/

lemma Base.goto (h : d.Base input orders s₀) (position : DiscoveryPosition) :
    (d.goto position).Base input orders s₀ := ⟨h.1, h.2, h.3, h.4⟩

lemma Finished.goto (h : d.Finished input orders) (position : DiscoveryPosition) :
    (d.goto position).Finished input orders := ⟨h.1, h.2, h.3⟩

lemma finish_invariant (h : d.Base input orders s₀) (hdecided : d.Decided input orders)
    (hcomplete : d.report.complete = true → d.Finished input orders ∧ d.Settled) :
    d.finish.Invariant input orders s₀ := by
  unfold finish
  split
  next hfail => exact ⟨h.goto _, hfail.1, fun _ => hdecided⟩
  next => exact ⟨h.goto _, ⟨rfl, fun hc => (hcomplete hc).imp_left (·.goto _)⟩, fun _ => hdecided⟩

lemma thrown_invariant (h : d.Base input orders s₀) (error : String) :
    (d.thrown error).Invariant input orders s₀ := by
  refine finish_invariant ⟨h.wellFormed, h.resolved, h.scanned, fun htrunc => ?_⟩ ?_ ?_
  · exact ⟨rfl, (h.truncated htrunc).2⟩
  · intro hfalse
    cases hfalse
  · intro hfalse
    cases hfalse

lemma afterLoop_invariant (h : d.Base input orders s₀) (hdecided : d.Decided input orders)
    (hfinished : d.report.truncated = false → d.report.complete = true →
      d.Finished input orders) : d.afterLoop.Invariant input orders s₀ := by
  unfold afterLoop
  split
  next htrunc => exact ⟨h.goto _, htrunc, fun _ => hdecided⟩
  next htrunc =>
    split
    next hcomplete =>
      have hfin := hfinished (Bool.eq_false_iff.mpr htrunc) hcomplete
      exact ⟨h.goto _, hfin.goto _, fun _ => hdecided⟩
    next hcomplete =>
      refine finish_invariant h hdecided fun hc => absurd hc hcomplete

lemma endOfPage_invariant {page : DiscoveryPage} (h : d.Base input orders s₀)
    (hpage : d.OnPage orders page) (hdone : d.Done input orders []) :
    (d.endOfPage input page).Invariant input orders s₀ := by
  obtain ⟨hnext, hcursor⟩ := hpage.pageEnd
  unfold endOfPage
  split
  next hlast =>
    -- the last page
    have hscanned : orders.length ≤ d.report.ordersScanned := by
      rw [hlast] at hnext
      exact not_lt.mp (of_decide_eq_false hnext.symm)
    refine afterLoop_invariant h (fun _ _ hmore => ?_) fun _ hcomplete => ⟨hcomplete, hscanned, hdone⟩
    omega
  next hmore =>
    have hlt : d.report.ordersScanned < orders.length := by
      rw [Bool.not_eq_false, hnext] at hmore
      exact of_decide_eq_true hmore
    rw [if_pos hlt] at hcursor
    rw [hcursor]
    dsimp only
    split
    next hcap =>
      refine afterLoop_invariant ⟨h.wellFormed, h.resolved, h.scanned, fun _ => ⟨rfl, hcap, hlt⟩⟩
        (fun _ _ _ => rfl) fun hfalse => by cases hfalse
    next hcap =>
      unfold loopHead
      rw [if_pos (not_le.mp hcap)]
      exact ⟨h.goto _, ⟨rfl, not_le.mp hcap, hdone⟩, fun hover => hover.elim⟩

/-- An order that is covered need not be pending. -/
lemma Done.covered {order : RecentShopifyOrderIdentity} (h : d.Done input orders (order :: pending))
    (hcovers : d.store.Covers input order) : d.Done input orders pending := by
  intro hcomplete node hnode
  obtain ⟨order', horder, t, ht, hcov⟩ := h hcomplete node hnode
  refine ⟨order', horder, t, ht, fun hwindow => ?_⟩
  rcases hcov hwindow with hmem | hcov
  · rcases List.mem_cons.mp hmem with rfl | hmem
    · exact .inr hcovers
    · exact .inl hmem
  · exact .inr hcov

lemma nextOrder_invariant {page : DiscoveryPage}
    {queue : List (RecentShopifyOrderIdentity × Option AuthoritativeOrdersCreateIntake)}
    (h : d.Base input orders s₀) (hpage : d.OnPage orders page) (hqueue : d.Queued input queue)
    (hdone : d.Done input orders (queue.map (·.1))) :
    (nextOrder input page queue d).Invariant input orders s₀ := by
  induction queue generalizing d with
  | nil => exact endOfPage_invariant h hpage hdone
  | cons e queue ih =>
      obtain ⟨order, intake⟩ := e
      have hrest : d.Queued input queue := fun e he => hqueue e (List.mem_cons_of_mem _ he)
      unfold nextOrder
      split
      next hlocal => exact ih h hpage hrest (hdone.covered (.inl (hpage.localIds _ hlocal)))
      next =>
        split
        next hdeferred =>
          have hintake := hqueue (order, intake) (by simp)
          have hcovers : d.store.Covers input order := by
            refine .inr (.inl ⟨hdeferred.1, ?_⟩)
            rw [← hintake]
            exact hdeferred.2
          exact ih ⟨h.wellFormed, h.resolved, h.scanned, h.truncated⟩
            ⟨hpage.pageEnd, hpage.localIds⟩ hrest (hdone.covered hcovers)
        next => exact ⟨h.goto _, ⟨⟨hpage.pageEnd, hpage.localIds⟩, hrest, hdone⟩, fun hover => hover.elim⟩

/-- An error in the loop over the orders: the run goes on and is not complete. -/
lemma orderFailed_invariant {page : DiscoveryPage}
    {queue : List (RecentShopifyOrderIdentity × Option AuthoritativeOrdersCreateIntake)}
    (h : d.Base input orders s₀) (hpage : d.OnPage orders page) (hqueue : d.Queued input queue) :
    (d.orderFailed input page queue).Invariant input orders s₀ := by
  refine nextOrder_invariant ⟨h.wellFormed, h.resolved, h.scanned, fun htrunc => ?_⟩
    ⟨hpage.pageEnd, hpage.localIds⟩ hqueue fun hfalse => by cases hfalse
  exact ⟨rfl, (h.truncated htrunc).2⟩

/-! ## A page is received -/

lemma eligibleOrders_report (page : List RecentShopifyOrderIdentity)
    (report : MissedOrderDiscoveryReport) :
    (eligibleOrders input page report).2.ordersScanned = report.ordersScanned ∧
      (eligibleOrders input page report).2.truncated = report.truncated ∧
      ((eligibleOrders input page report).2.complete = true → report.complete = true) := by
  induction page generalizing report with
  | nil => exact ⟨rfl, rfl, fun h => h⟩
  | cons order page ih =>
      unfold eligibleOrders
      split
      · obtain ⟨hscanned, htrunc, hcomplete⟩ := ih (report.withError _)
        exact ⟨hscanned, htrunc, fun h => absurd (hcomplete h) (by simp [MissedOrderDiscoveryReport.withError])⟩
      · exact ih report

/-- When no date was reported, every order has one, and those in the window are eligible. -/
lemma mem_eligibleOrders {page : List RecentShopifyOrderIdentity}
    {report : MissedOrderDiscoveryReport}
    (h : (eligibleOrders input page report).2.complete = true)
    {order : RecentShopifyOrderIdentity} (horder : order ∈ page) :
    ∃ t, order.shopifyCreatedAt.time = some t ∧
      (input.InWindow t → order ∈ (eligibleOrders input page report).1) := by
  induction page generalizing report with
  | nil => cases horder
  | cons x page ih =>
      unfold eligibleOrders at h ⊢
      split at h
      next =>
        have hfalse := (eligibleOrders_report page (report.withError _)).2.2 h
        cases hfalse
      next t ht =>
        dsimp only
        rcases List.mem_cons.mp horder with rfl | hmem
        · exact ⟨t, ht, fun hwindow => by simp [hwindow]⟩
        · obtain ⟨u, hu, hmem⟩ := ih h hmem
          refine ⟨u, hu, fun hwindow => ?_⟩
          split
          · exact List.mem_cons_of_mem _ (hmem hwindow)
          · exact hmem hwindow

lemma toOrder_isSome_of_length {nodes : List RecentOrderNode}
    (h : nodes.length ≤ (nodes.filterMap RecentOrderNode.toOrder).length) {node : RecentOrderNode}
    (hnode : node ∈ nodes) : ∃ order ∈ nodes.filterMap RecentOrderNode.toOrder, node.toOrder = some order := by
  induction nodes with
  | nil => cases hnode
  | cons x nodes ih =>
      have hle := List.length_filterMap_le RecentOrderNode.toOrder nodes
      cases hx : x.toOrder with
      | none =>
          rw [List.filterMap_cons_none hx, List.length_cons] at h
          omega
      | some order =>
          rw [List.filterMap_cons_some hx] at h ⊢
          rw [List.length_cons, List.length_cons] at h
          rcases List.mem_cons.mp hnode with rfl | hmem
          · exact ⟨order, by simp, hx⟩
          · obtain ⟨order', hmem', hsome⟩ := ih (by omega) hmem
            exact ⟨order', List.mem_cons_of_mem _ hmem', hsome⟩

lemma received_invariant {after : Option ℕ} {page : FetchRecentShopifyOrdersPageResult}
    (h : d.Base input orders s₀) (hafter : after.getD 0 = d.report.ordersScanned)
    (hcap : (d.report.ordersScanned : ℤ) < input.maxOrders) (hdone : d.Done input orders [])
    (hpage : ServesPage orders after (d.first input) page) :
    (d.received input page).Invariant input orders s₀ := by
  obtain ⟨-, hlen, -, heq⟩ := hpage
  rw [hafter] at hlen heq
  set n := page.nodesCount with hn
  let report := { d.report with ordersScanned := d.report.ordersScanned + n }
  let checkedReport := if 0 < page.malformedNodes then report.withError
    (toString page.malformedNodes ++ " Shopify order identity record(s) were malformed and skipped.")
      else report
  obtain ⟨hscanned, htrunc, hcomplete⟩ := @eligibleOrders_report input page.orders checkedReport
  have hscanned' : (d.received input page).report.ordersScanned = d.report.ordersScanned + n := by
    refine Eq.trans hscanned ?_
    simp only [checkedReport]
    split <;> rfl
  have htrunc' : (d.received input page).report.truncated = d.report.truncated := by
    refine Eq.trans htrunc ?_
    simp only [checkedReport]
    split <;> rfl
  -- a report that is still complete had no malformed record
  have hcomplete' : (d.received input page).report.complete = true → d.report.complete = true ∧
      page.malformedNodes = 0 := by
    intro hc
    have hchecked := hcomplete hc
    simp only [checkedReport] at hchecked
    split at hchecked
    · cases hchecked
    · exact ⟨hchecked, by omega⟩
  rw [List.length_drop] at hlen
  refine ⟨⟨h.wellFormed, h.resolved, ?_, fun ht => ?_⟩, ⟨⟨?_, ?_⟩, fun hc node hnode => ?_⟩,
    fun hover => hover.elim⟩
  · have := h.scanned
    omega
  · rw [htrunc'] at ht
    have := (h.truncated ht).2.1
    omega
  · rw [hscanned', heq]
    rfl
  · rw [hscanned', heq]
    rfl
  · obtain ⟨hwas, hmalformed⟩ := hcomplete' hc
    rw [hscanned', List.take_add] at hnode
    rcases List.mem_append.mp hnode with hnode | hnode
    · obtain ⟨order, horder, t, ht, hcov⟩ := hdone hwas node hnode
      exact ⟨order, horder, t, ht, fun hwindow =>
        .inr ((hcov hwindow).resolve_left (List.not_mem_nil))⟩
    · have hlength : ((orders.drop d.report.ordersScanned).take n).length ≤
          (((orders.drop d.report.ordersScanned).take n).filterMap RecentOrderNode.toOrder).length := by
        rw [heq] at hmalformed
        exact Nat.sub_eq_zero_iff_le.mp hmalformed
      obtain ⟨order, hmem, horder⟩ := toOrder_isSome_of_length hlength hnode
      have hpageorders : order ∈ page.orders := by
        rw [heq]
        exact hmem
      obtain ⟨t, ht, helig⟩ := @mem_eligibleOrders input _ _ hc _ hpageorders
      exact ⟨order, horder, t, ht, fun hwindow => .inl (helig hwindow)⟩

end DiscoveryState

/-! ## What a statement keeps -/

/-- Orders stay, and an active signal about a missing order stays unless its order is local. -/
structure DiscoveryStore.Keeps (s s' : DiscoveryStore) : Prop where
  localOrders : ∀ id ∈ s.localOrders, id ∈ s'.localOrders
  intakes : s'.intakes = s.intakes
  signals : ∀ r ∈ s.signals, r.Missing → r.status = .active →
    (∃ r' ∈ s'.signals, r'.id = r.id ∧ r'.Missing ∧ r'.status = .active) ∨
      ∃ o : LegacyResourceId, r.id = buildMissedOrderSignalId o.text ∧ o.text ∈ s'.localOrders

/-- The signals about missing orders among the ids are those of local orders. -/
def DiscoveryStore.MayResolve (s : DiscoveryStore) (ids : List String) : Prop :=
  ∀ id ∈ ids, ∀ o : LegacyResourceId, id = buildMissedOrderSignalId o.text →
    o.text ∈ s.localOrders

namespace DiscoveryStore

variable {s s' : DiscoveryStore} {signal : OperationalSignal} {ids : List String} {now : Instant}
  {input : DiscoveryInput}

lemma Keeps.ingest (s : DiscoveryStore) (id : String) :
    s.Keeps { s with localOrders := s.localOrders ++ [id] } :=
  ⟨fun _ h => List.mem_append_left _ h, rfl,
    fun r hr hmissing hactive => .inl ⟨r, hr, rfl, hmissing, hactive⟩⟩

lemma upsertSignal_rest : (s.upsertSignal signal).localOrders = s.localOrders ∧
    (s.upsertSignal signal).intakes = s.intakes := by
  unfold upsertSignal
  split <;> exact ⟨rfl, rfl⟩

lemma Keeps.upsertSignal (hs : s.WellFormed) (hactive : signal.status = .active)
    (hsignal : signal.Missing ∨ ∀ id, signal.id ≠ buildMissedOrderSignalId id) :
    s.Keeps (s.upsertSignal signal) := by
  obtain ⟨hlocal, hintakes⟩ := @upsertSignal_rest s signal
  refine ⟨fun id hid => by rw [hlocal]; exact hid, hintakes, fun r hr hmissing hr' => .inl ?_⟩
  by_cases hid : r.id = signal.id
  · rcases hsignal with hsignal | hne
    · obtain ⟨t, ht⟩ := exists_upsertSignal s signal
      exact ⟨_, ht, hid.symm, hsignal, hactive⟩
    · obtain ⟨o, ho, -⟩ := hs.order r hr hmissing
      exact absurd (hid.symm.trans ho) (hne o.text)
  · exact ⟨r, mem_upsertSignal_of_ne hr hid, rfl, hmissing, hr'⟩

lemma Keeps.resolveSignals (hs : s.WellFormed) (hids : s.MayResolve ids) :
    s.Keeps (s.resolveSignals ids now) := by
  refine ⟨fun _ h => h, rfl, fun r hr hmissing hactive => ?_⟩
  by_cases hid : r.id ∈ ids ∧ r.Open
  · obtain ⟨o, ho, -⟩ := hs.order r hr hmissing
    exact .inr ⟨o, ho, hids _ hid.1 o ho⟩
  · exact .inl ⟨r, mem_resolveSignals.mpr ⟨r, hr, .inr ⟨hid, rfl⟩⟩, rfl, hmissing, hactive⟩

/-- An order that is covered stays covered. -/
lemma Covers.keeps {order : RecentShopifyOrderIdentity} (h : s.Covers input order)
    (hk : s.Keeps s') : s'.Covers input order := by
  rcases h with hlocal | hdeferred | ⟨r, hr, hid, hmissing, hactive⟩
  · exact .inl (hk.localOrders _ hlocal)
  · refine .inr (.inl ?_)
    rw [hk.intakes]
    exact hdeferred
  · rcases hk.signals r hr hmissing hactive with ⟨r', hr', hid', hrest⟩ | ⟨o, ho, hlocal⟩
    · exact .inr (.inr ⟨r', hr', hid'.trans hid, hrest⟩)
    · left
      rw [buildMissedOrderSignalId_inj (hid.symm.trans ho)]
      exact hlocal

end DiscoveryStore

namespace DiscoveryState

open DiscoveryStore

variable {input : DiscoveryInput} {orders : List RecentOrderNode} {s₀ : DiscoveryStore}
  {d d' : DiscoveryState} {pending : List RecentShopifyOrderIdentity}

/-- The state keeps what was scanned. -/
structure Advances (d d' : DiscoveryState) : Prop where
  keeps : d.store.Keeps d'.store
  scanned : d'.report.ordersScanned = d.report.ordersScanned
  complete : d'.report.complete = true → d.report.complete = true

lemma Done.advances (h : d.Done input orders pending) (hd : d.Advances d') :
    d'.Done input orders pending := by
  intro hcomplete node hnode
  rw [hd.scanned] at hnode
  obtain ⟨order, horder, t, ht, hcov⟩ := h (hd.complete hcomplete) node hnode
  exact ⟨order, horder, t, ht, fun hwindow => (hcov hwindow).imp_right (·.keeps hd.keeps)⟩

lemma OnPage.advances {page : DiscoveryPage} (h : d.OnPage orders page) (hd : d.Advances d') :
    d'.OnPage orders page := by
  refine ⟨?_, fun id hid => hd.keeps.localOrders id (h.localIds id hid)⟩
  unfold PageEnd
  rw [hd.scanned]
  exact h.pageEnd

lemma Queued.advances
    {queue : List (RecentShopifyOrderIdentity × Option AuthoritativeOrdersCreateIntake)}
    (h : d.Queued input queue) (hd : d.Advances d') : d'.Queued input queue := by
  unfold Queued
  rw [hd.keeps.intakes]
  exact h

lemma Finished.advances (h : d.Finished input orders) (hd : d.Advances d')
    (hcomplete : d'.report.complete = true) : d'.Finished input orders :=
  ⟨hcomplete, hd.scanned ▸ h.scanned, h.done.advances hd⟩

/-- The store and the report are what counts. -/
lemma Base.congr (h : d.Base input orders s₀) (hstore : d'.store = d.store)
    (hscanned : d'.report.ordersScanned = d.report.ordersScanned)
    (htruncated : d'.report.truncated = d.report.truncated)
    (hcomplete : d'.report.complete = d.report.complete) : d'.Base input orders s₀ := by
  refine ⟨hstore ▸ h.wellFormed, ?_, hscanned ▸ h.scanned, ?_⟩
  · unfold ResolvesOnlyLocal
    rw [hstore]
    exact h.resolved
  · rw [hscanned, htruncated, hcomplete]
    exact h.truncated

lemma Base.upsertSignal {signal : OperationalSignal} (h : d.Base input orders s₀)
    (hactive : signal.status = .active)
    (hsignal : signal.Missing → ∃ o : LegacyResourceId,
      signal.id = buildMissedOrderSignalId o.text ∧
        signal.metadata.sourceShopifyOrderId = some o.text) :
    (d.withStore (d.store.upsertSignal signal)).Base input orders s₀ := by
  refine ⟨h.wellFormed.upsertSignal hsignal, fun r hr hmissing hresolved => ?_, h.scanned,
    h.truncated⟩
  rcases mem_upsertSignal hr with ⟨hr, -⟩ | ⟨t, rfl⟩
  · unfold withStore
    rw [upsertSignal_rest.1]
    exact h.resolved r hr hmissing hresolved
  · rw [hactive] at hresolved
    cases hresolved

lemma Base.resolveSignals {ids : List String} (h : d.Base input orders s₀)
    (hids : d.store.MayResolve ids) (now : Instant) :
    (d.withStore (d.store.resolveSignals ids now)).Base input orders s₀ := by
  refine ⟨h.wellFormed.resolveSignals, fun r hr hmissing hresolved => ?_, h.scanned, h.truncated⟩
  obtain ⟨x, hx, ⟨hid, -, rfl⟩ | ⟨-, rfl⟩⟩ := mem_resolveSignals.mp hr
  · obtain ⟨o, ho, -⟩ := h.wellFormed.order x hx hmissing
    exact .inr ⟨o, ho, hids _ hid o ho⟩
  · exact h.resolved r hx hmissing hresolved

lemma mayResolve_run {s : DiscoveryStore} {id : String}
    (h : ∀ o, buildMissedOrderSignalId o ≠ id) : s.MayResolve [id] := by
  intro id' hid' o ho
  obtain rfl := List.mem_singleton.mp hid'
  exact absurd ho.symm (h o.text)

lemma mayResolve_order {order : RecentShopifyOrderIdentity} (h : d.isLocal order) :
    d.store.MayResolve [buildMissedOrderSignalId order.sourceShopifyOrderId.text] := by
  intro id hid o ho
  obtain rfl := List.mem_singleton.mp hid
  rw [← buildMissedOrderSignalId_inj ho]
  exact h

/-! ## Every step keeps the invariant -/

/-- The signal of a missing order is written. -/
lemma Base.upsertMissing (h : d.Base input orders s₀) (order : RecentShopifyOrderIdentity)
    (intake : Option AuthoritativeOrdersCreateIntake) (firstDetectedAt : Instant) :
    (d.withStore (d.store.upsertSignal (missingOrderSignal order input.now firstDetectedAt intake
      input.executorEnabled))).Base input orders s₀ :=
  h.upsertSignal rfl fun _ => ⟨order.sourceShopifyOrderId, rfl, rfl⟩

lemma Advances.upsertMissing (h : d.Base input orders s₀) (order : RecentShopifyOrderIdentity)
    (intake : Option AuthoritativeOrdersCreateIntake) (firstDetectedAt : Instant) :
    d.Advances (d.withStore (d.store.upsertSignal (missingOrderSignal order input.now
      firstDetectedAt intake input.executorEnabled))) :=
  ⟨.upsertSignal h.wellFormed rfl (.inl rfl), rfl, fun hc => hc⟩

lemma Advances.resolveSignals {ids : List String} (h : d.Base input orders s₀)
    (hids : d.store.MayResolve ids) (now : Instant) :
    d.Advances (d.withStore (d.store.resolveSignals ids now)) :=
  ⟨.resolveSignals h.wellFormed hids, rfl, fun hc => hc⟩

lemma truncationSignal_not_missing {ordersScanned : ℕ} {maxOrders : ℤ} {observedAt now : Instant} :
    ¬(truncationSignal ordersScanned maxOrders observedAt now).Missing := by
  have hne : "shopify_order_discovery_truncated" ≠ MISSED_ORDER_SIGNAL_TYPE := by decide
  exact hne

lemma runFailedSignal_not_missing {ordersScanned errorCount : ℕ} {observedAt now : Instant} :
    ¬(runFailedSignal ordersScanned errorCount observedAt now).Missing := by
  have hne : "shopify_order_discovery_run_failed" ≠ MISSED_ORDER_SIGNAL_TYPE := by decide
  exact hne

/-- A signal about the run is written. -/
lemma Base.upsertRunSignal {signal : OperationalSignal} (h : d.Base input orders s₀)
    (hactive : signal.status = .active) (hrun : ¬signal.Missing) :
    (d.withStore (d.store.upsertSignal signal)).Base input orders s₀ :=
  h.upsertSignal hactive fun hmissing => absurd hmissing hrun

/-- The open signals after some were resolved. -/
lemma Settled.resolveSignals {ids : List String} {now : Instant} (h : d.Settled) :
    (d.withStore (d.store.resolveSignals ids now)).Settled := by
  intro r hr hmissing hopen o ho
  obtain ⟨x, hx, ⟨-, -, rfl⟩ | ⟨-, rfl⟩⟩ := mem_resolveSignals.mp hr
  · rcases hopen with hopen | hopen <;> cases hopen
  · exact h r hx hmissing hopen o ho

lemma run_invariant {answer : DiscoveryAnswer} (h : d.Invariant input orders s₀)
    (hserves : ServesOrders input orders d (.run answer)) (hrun : d.run input answer = some d') :
    d'.Invariant input orders s₀ := by
  obtain ⟨store, report, position, checked, interrupted⟩ := d
  obtain ⟨hbase, hposition, hdecided⟩ := h
  unfold run at hrun
  dsimp only at hrun
  split at hrun
  case h_1 after page =>
    obtain ⟨hafter, hcap, hdone⟩ := hposition
    obtain rfl := Option.some.inj hrun
    exact received_invariant hbase hafter hcap hdone hserves
  case h_2 =>
    obtain rfl := Option.some.inj hrun
    exact thrown_invariant hbase _
  case h_3 hasNextPage endCursor pending _ =>
    obtain ⟨hend, hdone⟩ := hposition
    obtain rfl := Option.some.inj hrun
    refine ⟨hbase.congr rfl rfl rfl rfl, ⟨⟨hend, fun id hid => ?_⟩, hdone⟩, fun hover => hover.elim⟩
    exact of_decide_eq_true (List.mem_filter.mp hid).2
  case h_4 page pending _ =>
    obtain ⟨hpage, hdone⟩ := hposition
    obtain rfl := Option.some.inj hrun
    refine nextOrder_invariant hbase hpage (fun e he => ?_) ?_
    · obtain ⟨order, -, rfl⟩ := List.mem_map.mp he
      rfl
    · have hmap : ∀ f : RecentShopifyOrderIdentity → Option AuthoritativeOrdersCreateIntake,
          (pending.map fun order => (order, f order)).map (·.1) = pending := by
        intro f
        rw [List.map_map]
        exact List.map_id' pending
      rw [hmap]
      exact hdone
  case h_5 page order intake queue _ =>
    obtain ⟨hpage, hqueue, hdone⟩ := hposition
    obtain rfl := Option.some.inj hrun
    split
    next hlocal =>
      exact nextOrder_invariant (hbase.congr rfl rfl rfl rfl) ⟨hpage.pageEnd, hpage.localIds⟩ hqueue
        (hdone.covered (.inl hlocal))
    next =>
      exact ⟨hbase.congr rfl rfl rfl rfl, ⟨⟨hpage.pageEnd, hpage.localIds⟩, hqueue, hdone⟩,
        fun hover => hover.elim⟩
  case h_6 =>
    obtain ⟨hpage, hqueue, hdone⟩ := hposition
    obtain rfl := Option.some.inj hrun
    exact ⟨hbase.congr rfl rfl rfl rfl, ⟨⟨hpage.pageEnd, hpage.localIds⟩, hqueue, hdone⟩,
      fun hover => hover.elim⟩
  case h_7 page order intake firstDetectedAt queue _ =>
    obtain ⟨hpage, hqueue, hdone⟩ := hposition
    obtain rfl := Option.some.inj hrun
    have hbase' := hbase.upsertMissing order intake firstDetectedAt
    have hadvances := Advances.upsertMissing hbase order intake firstDetectedAt
    have hpage' := hpage.advances hadvances
    have hqueue' := hqueue.advances hadvances
    have hdone' := hdone.advances hadvances
    refine ⟨hbase'.congr rfl rfl rfl rfl, ⟨⟨hpage'.pageEnd, hpage'.localIds⟩, hqueue', ?_⟩,
      fun hover => hover.elim⟩
    -- the order has its signal now
    refine Done.covered hdone' (.inr (.inr ?_))
    obtain ⟨t, ht⟩ := exists_upsertSignal store (missingOrderSignal order input.now
      firstDetectedAt intake input.executorEnabled)
    exact ⟨_, ht, rfl, rfl, rfl⟩
  case h_8 page order intake firstDetectedAt queue _ =>
    obtain ⟨hpage, hqueue, -⟩ := hposition
    obtain rfl := Option.some.inj hrun
    have hadvances := Advances.upsertMissing hbase order intake firstDetectedAt
    exact orderFailed_invariant (hbase.upsertMissing order intake firstDetectedAt)
      (hpage.advances hadvances) (hqueue.advances hadvances)
  case h_9 page order queue _ =>
    obtain ⟨hpage, hqueue, hdone⟩ := hposition
    obtain rfl := Option.some.inj hrun
    split
    next hlocal =>
      exact ⟨hbase.congr rfl rfl rfl rfl, ⟨hlocal, ⟨hpage.pageEnd, hpage.localIds⟩, hqueue, hdone⟩,
        fun hover => hover.elim⟩
    next =>
      exact nextOrder_invariant (hbase.congr rfl rfl rfl rfl) ⟨hpage.pageEnd, hpage.localIds⟩ hqueue
        hdone
  case h_10 page order queue now =>
    obtain ⟨hlocal, hpage, hqueue, hdone⟩ := hposition
    obtain rfl := Option.some.inj hrun
    have hids := mayResolve_order hlocal
    have hadvances := Advances.resolveSignals hbase hids now
    exact nextOrder_invariant (hbase.resolveSignals hids now) (hpage.advances hadvances)
      (hqueue.advances hadvances) (hdone.advances hadvances)
  case h_11 page order queue now =>
    obtain ⟨hlocal, hpage, hqueue, -⟩ := hposition
    obtain rfl := Option.some.inj hrun
    have hids := mayResolve_order hlocal
    have hadvances := Advances.resolveSignals hbase hids now
    exact orderFailed_invariant (hbase.resolveSignals hids now) (hpage.advances hadvances)
      (hqueue.advances hadvances)
  case h_12 | h_13 | h_14 | h_15 =>
    obtain ⟨hpage, hqueue, -⟩ := hposition
    obtain rfl := Option.some.inj hrun
    exact orderFailed_invariant hbase hpage hqueue
  case h_16 =>
    obtain ⟨-, hpage, hqueue, -⟩ := hposition
    obtain rfl := Option.some.inj hrun
    exact orderFailed_invariant hbase hpage hqueue
  case h_17 now =>
    obtain rfl := Option.some.inj hrun
    refine finish_invariant (hbase.upsertRunSignal rfl truncationSignal_not_missing)
      (hdecided trivial) fun hc => ?_
    have hincomplete : report.complete = false := (hbase.truncated hposition).1
    cases hincomplete.symm.trans hc
  case h_18 now =>
    obtain rfl := Option.some.inj hrun
    exact thrown_invariant (hbase.upsertRunSignal rfl truncationSignal_not_missing) _
  case h_19 now =>
    obtain rfl := Option.some.inj hrun
    have hids : store.MayResolve _ := mayResolve_run fun o => (buildMissedOrderSignalId_ne o).1
    have hadvances := Advances.resolveSignals hbase hids now
    exact ⟨(hbase.resolveSignals hids now).goto _,
      (Finished.advances hposition hadvances hposition.complete).goto _, fun _ => hdecided trivial⟩
  case h_20 now =>
    obtain rfl := Option.some.inj hrun
    exact thrown_invariant (hbase.resolveSignals
      (mayResolve_run fun o => (buildMissedOrderSignalId_ne o).1) now) _
  case h_21 =>
    obtain rfl := Option.some.inj hrun
    have hlisted : ∀ r ∈ store.signals, r.Missing → r.Open → ∀ o : LegacyResourceId,
        r.id = buildMissedOrderSignalId o.text → (o.text, r.id) ∈ store.listMissingOrderSignals :=
      fun r hr hmissing hopen o ho =>
        hbase.wellFormed.mem_listMissingOrderSignals hr hmissing hopen ho
    have hfinished : Finished input orders _ := hposition
    split
    next hnil =>
      refine ⟨hbase.goto _, ⟨hfinished.goto _, fun r hr hmissing hopen o ho => ?_⟩,
        fun _ => hdecided trivial⟩
      have hmem := hlisted r hr hmissing hopen o ho
      rw [hnil] at hmem
      cases hmem
    next =>
      exact ⟨hbase.goto _, ⟨hfinished.goto _, hlisted, fun e he =>
        hbase.wellFormed.of_mem_listMissingOrderSignals he⟩, fun _ => hdecided trivial⟩
  case h_22 bySourceId _ =>
    obtain ⟨hfinished, hlisted, hids⟩ := hposition
    obtain rfl := Option.some.inj hrun
    refine ⟨hbase.congr rfl rfl rfl rfl, ⟨⟨hfinished.1, hfinished.2, hfinished.3⟩,
      fun r hr hmissing hopen o ho => ?_, fun id hid => ?_⟩, fun _ => hdecided trivial⟩
    · have hmem := hlisted r hr hmissing hopen o ho
      by_cases hlocal : o.text ∈ store.localOrders
      · exact .inl (List.mem_map.mpr
          ⟨_, List.mem_filter.mpr ⟨hmem, decide_eq_true hlocal⟩, rfl⟩)
      · right
        have hkey : o.text ∈ bySourceId.map (·.1) := List.mem_map.mpr ⟨_, hmem, rfl⟩
        simp only [goto, check, if_pos hkey, hlocal, decide_false]
    · obtain ⟨e, he, rfl⟩ := List.mem_map.mp hid
      obtain ⟨he, hlocal⟩ := List.mem_filter.mp he
      obtain ⟨o, ho, hbuild⟩ := hids e he
      exact ⟨o, hbuild, ho ▸ of_decide_eq_true hlocal⟩
  case h_23 ids now =>
    obtain ⟨hfinished, hlisted, hids⟩ := hposition
    obtain rfl := Option.some.inj hrun
    have hmay : store.MayResolve ids := by
      intro id hid o ho
      obtain ⟨o', ho', hlocal⟩ := hids id hid
      rw [buildMissedOrderSignalId_inj (ho.symm.trans ho')]
      exact hlocal
    have hadvances := Advances.resolveSignals hbase hmay now
    refine ⟨(hbase.resolveSignals hmay now).goto _,
      ⟨(hfinished.advances hadvances hfinished.complete).goto _, fun r hr hmissing hopen o ho => ?_⟩,
      fun _ => hdecided trivial⟩
    obtain ⟨x, hx, ⟨-, -, rfl⟩ | ⟨hnot, rfl⟩⟩ := mem_resolveSignals.mp hr
    · rcases hopen with hopen | hopen <;> cases hopen
    · exact (hlisted r hx hmissing hopen o ho).resolve_left fun hid => hnot ⟨hid, hopen⟩
  case h_24 ids done now =>
    obtain ⟨-, -, hids⟩ := hposition
    obtain rfl := Option.some.inj hrun
    refine thrown_invariant (hbase.resolveSignals (fun id hid o ho => ?_) now) _
    obtain ⟨o', ho', hlocal⟩ := hids id (List.mem_filter.mp hid).1
    rw [buildMissedOrderSignalId_inj (ho.symm.trans ho')]
    exact hlocal
  case h_25 now =>
    obtain ⟨hfinished, hsettled⟩ := hposition
    obtain rfl := Option.some.inj hrun
    have hids : store.MayResolve _ := mayResolve_run fun o => (buildMissedOrderSignalId_ne o).2
    have hadvances := Advances.resolveSignals hbase hids now
    exact finish_invariant (hbase.resolveSignals hids now) (hdecided trivial) fun _ =>
      ⟨hfinished.advances hadvances hfinished.complete, Settled.resolveSignals hsettled⟩
  case h_26 now =>
    obtain rfl := Option.some.inj hrun
    exact thrown_invariant (hbase.resolveSignals
      (mayResolve_run fun o => (buildMissedOrderSignalId_ne o).2) now) _
  case h_27 | h_28 | h_29 | h_30 | h_31 | h_32 | h_33 | h_34 =>
    obtain rfl := Option.some.inj hrun
    exact thrown_invariant hbase _
  case h_35 now =>
    obtain rfl := Option.some.inj hrun
    refine ⟨(hbase.upsertRunSignal rfl runFailedSignal_not_missing).goto _, ⟨rfl, fun hc => ?_⟩,
      fun _ => hdecided trivial⟩
    have hincomplete : report.complete = false := hposition
    rw [hincomplete] at hc
    cases hc
  case h_36 now =>
    obtain rfl := Option.some.inj hrun
    exact ⟨(hbase.upsertRunSignal rfl runFailedSignal_not_missing).goto _, trivial, fun _ => hdecided trivial⟩
  case h_37 =>
    obtain rfl := Option.some.inj hrun
    exact ⟨hbase.congr rfl rfl rfl rfl, trivial, fun _ => hdecided trivial⟩
  case h_38 => cases hrun

lemma ingest_invariant (h : d.Invariant input orders s₀) (id : String) :
    (d.withStore { d.store with localOrders := d.store.localOrders ++ [id] }).Invariant input orders
      s₀ := by
  have hadvances : d.Advances
      (d.withStore { d.store with localOrders := d.store.localOrders ++ [id] }) :=
    ⟨.ingest _ _, rfl, fun hc => hc⟩
  have hmono : ∀ o ∈ d.store.localOrders, o ∈ d.store.localOrders ++ [id] :=
    fun o ho => List.mem_append_left _ ho
  obtain ⟨hbase, hposition, hdecided⟩ := h
  refine ⟨⟨⟨hbase.wellFormed.key, hbase.wellFormed.order⟩, fun r hr hmissing hresolved => ?_,
    hbase.scanned, hbase.truncated⟩, ?_, hdecided⟩
  · exact (hbase.resolved r hr hmissing hresolved).imp_right fun ⟨o, ho, hlocal⟩ =>
      ⟨o, ho, hmono _ hlocal⟩
  · obtain ⟨store, report, position, checked, interrupted⟩ := d
    cases position with
    | fetch after => exact ⟨hposition.1, hposition.2.1, hposition.2.2.advances hadvances⟩
    | readLocal hasNextPage endCursor pending =>
        exact ⟨hposition.1, hposition.2.advances hadvances⟩
    | readIntakes page pending =>
        exact ⟨hposition.1.advances hadvances, hposition.2.advances hadvances⟩
    | beforeWrite | findSignal | upsertSignal | afterWrite =>
        exact ⟨hposition.1.advances hadvances, hposition.2.1.advances hadvances,
          hposition.2.2.advances hadvances⟩
    | resolveWritten =>
        exact ⟨hmono _ hposition.1, hposition.2.1.advances hadvances,
          hposition.2.2.1.advances hadvances, hposition.2.2.2.advances hadvances⟩
    | upsertTruncation => exact hposition
    | resolveTruncation | listSignals =>
        exact Finished.advances hposition hadvances hposition.complete
    | findLocal bySourceId =>
        exact ⟨hposition.1.advances hadvances hposition.1.complete, hposition.2.1, hposition.2.2⟩
    | resolveLocal ids =>
        refine ⟨hposition.1.advances hadvances hposition.1.complete, hposition.2.1,
          fun id hid => ?_⟩
        obtain ⟨o, ho, hlocal⟩ := hposition.2.2 id hid
        exact ⟨o, ho, hmono _ hlocal⟩
    | resolveFailure =>
        exact ⟨hposition.1.advances hadvances hposition.1.complete, hposition.2⟩
    | upsertFailure => exact hposition
    | ended result =>
        cases result with
        | ok reported =>
            refine ⟨hposition.1, fun hc => ?_⟩
            obtain ⟨hfinished, hsettled⟩ := hposition.2 hc
            exact ⟨hfinished.advances hadvances hfinished.complete, hsettled⟩
        | error => trivial

lemma begin_invariant (hcap : 0 < input.maxOrders) (hs : s₀.WellFormed) :
    (begin input s₀).Invariant input orders s₀ := by
  unfold begin loopHead
  rw [if_pos (by simpa [MissedOrderDiscoveryReport.new] using hcap)]
  refine ⟨⟨hs, fun r hr _ _ => .inl hr, Nat.zero_le _, fun ht => by cases ht⟩, ⟨rfl, hcap, ?_⟩,
    fun hover => hover.elim⟩
  intro _ node hnode
  cases hnode

end DiscoveryState

/-- The states of the runs from a store, while Shopify serves the orders of the window. -/
def DiscoveryReaches (input : DiscoveryInput) (orders : List RecentOrderNode) (s₀ : DiscoveryStore)
    (d : DiscoveryState) : Prop :=
  Reachable (fun d => d = .begin input s₀)
    (Commits (DiscoveryMove.step input) (ServesOrders input orders)) d

namespace DiscoveryState

variable {input : DiscoveryInput} {orders : List RecentOrderNode} {s₀ : DiscoveryStore}
  {d d' : DiscoveryState}

lemma step_ok {m : DiscoveryMove} : m.step input d = .ok d' ↔
    (∃ answer, m = .run answer ∧ d.run input answer = some d') ∨
      ∃ id, m = .ingest id ∧
        d' = d.withStore { d.store with localOrders := d.store.localOrders ++ [id] } := by
  cases m with
  | run answer => simp [DiscoveryMove.step, getOrThrow_eq_ok]
  | ingest id => simp [DiscoveryMove.step, eq_comm]

/-- **The invariant holds in every state of every run.** -/
lemma invariant_of_reaches (hcap : 0 < input.maxOrders) (hs : s₀.WellFormed)
    (h : DiscoveryReaches input orders s₀ d) : d.Invariant input orders s₀ := by
  unfold DiscoveryReaches at h
  refine h.invariant ?_ ?_
  · rintro _ rfl
    exact begin_invariant hcap hs
  · rintro u v - hu ⟨m, hserves, hstep⟩
    rcases step_ok.mp hstep with ⟨answer, rfl, hrun⟩ | ⟨id, rfl, rfl⟩
    · exact run_invariant hu hserves hrun
    · exact ingest_invariant hu id

/-! ## Termination -/

section Rank

variable (input d)

/-- How many orders the cap leaves. -/
def ordersLeft : ℕ := (input.maxOrders - d.report.ordersScanned).toNat

/-- A bound on the steps after a page. -/
def pageRank (hasNextPage : Bool) : ℕ := if hasNextPage then 20 * d.ordersLeft input + 41 else 9

/-- A bound on the steps that are left. -/
def rank : ℕ :=
  match d.position with
  | .fetch _ => 20 * d.ordersLeft input + 40
  | .readLocal hasNextPage _ pending => d.pageRank input hasNextPage + 5 * pending.length + 7
  | .readIntakes page pending => d.pageRank input page.hasNextPage + 5 * pending.length + 6
  | .beforeWrite page _ _ queue => d.pageRank input page.hasNextPage + 5 * queue.length + 5
  | .findSignal page _ _ queue => d.pageRank input page.hasNextPage + 5 * queue.length + 4
  | .upsertSignal page _ _ _ queue => d.pageRank input page.hasNextPage + 5 * queue.length + 3
  | .afterWrite page _ queue => d.pageRank input page.hasNextPage + 5 * queue.length + 2
  | .resolveWritten page _ queue => d.pageRank input page.hasNextPage + 5 * queue.length + 1
  | .resolveTruncation => 6
  | .listSignals => 5
  | .findLocal _ => 4
  | .resolveLocal _ => 3
  | .upsertTruncation | .resolveFailure => 2
  | .upsertFailure => 1
  | .ended _ => 0

end Rank

lemma finish_rank : d.finish.rank input ≤ 1 := by
  unfold finish
  split <;> simp [goto, rank]

lemma thrown_rank (error : String) : (d.thrown error).rank input ≤ 1 := finish_rank

lemma afterLoop_rank : d.afterLoop.rank input ≤ 6 := by
  unfold afterLoop
  split
  · simp [goto, rank]
  · split
    · simp [goto, rank]
    · exact finish_rank.trans (by omega)

lemma endOfPage_rank (page : DiscoveryPage) :
    (d.endOfPage input page).rank input ≤ d.pageRank input page.hasNextPage := by
  unfold endOfPage
  split
  next hlast =>
    have hover := @afterLoop_rank input d
    simp only [pageRank, hlast, Bool.false_eq_true, if_false]
    omega
  next hmore =>
    simp only [pageRank, Bool.not_eq_false _ ▸ hmore, if_true]
    split
    next => exact (thrown_rank _).trans (by omega)
    next cursor _ =>
      split
      next => exact afterLoop_rank.trans (by omega)
      next =>
        unfold loopHead
        split
        · simp [goto, rank, ordersLeft]
        · exact afterLoop_rank.trans (by omega)

lemma nextOrder_rank (page : DiscoveryPage)
    (queue : List (RecentShopifyOrderIdentity × Option AuthoritativeOrdersCreateIntake)) :
    (nextOrder input page queue d).rank input ≤
      d.pageRank input page.hasNextPage + 5 * queue.length := by
  induction queue generalizing d with
  | nil => exact endOfPage_rank page
  | cons e queue ih =>
      obtain ⟨order, intake⟩ := e
      unfold nextOrder
      rw [List.length_cons]
      split
      next => exact ih.trans (by omega)
      next =>
        split
        next =>
          refine ih.trans ?_
          simp only [pageRank, ordersLeft]
          omega
        next =>
          simp only [goto, rank, pageRank, ordersLeft]
          omega

lemma orderFailed_rank (page : DiscoveryPage)
    (queue : List (RecentShopifyOrderIdentity × Option AuthoritativeOrdersCreateIntake)) :
    (d.orderFailed input page queue).rank input ≤
      d.pageRank input page.hasNextPage + 5 * queue.length := nextOrder_rank page queue

lemma eligibleOrders_length (page : List RecentShopifyOrderIdentity)
    (report : MissedOrderDiscoveryReport) :
    (eligibleOrders input page report).1.length ≤ page.length := by
  induction page generalizing report with
  | nil => exact le_rfl
  | cons order page ih =>
      unfold eligibleOrders
      split
      · exact (ih _).trans (Nat.le_succ _)
      · dsimp only
        split
        · exact Nat.succ_le_succ (ih _)
        · exact (ih _).trans (Nat.le_succ _)

lemma received_rank {after : Option ℕ} {page : FetchRecentShopifyOrdersPageResult}
    (hpage : ServesPage orders after (d.first input) page) :
    (d.received input page).rank input < 20 * d.ordersLeft input + 40 := by
  obtain ⟨hfirst, hlen, hpos, heq⟩ := hpage
  have hleft : page.nodesCount ≤ d.ordersLeft input := by
    unfold first MISSED_ORDER_DISCOVERY_PAGE_SIZE at hfirst
    unfold ordersLeft
    omega
  let report := { d.report with ordersScanned := d.report.ordersScanned + page.nodesCount }
  let checkedReport := if 0 < page.malformedNodes then report.withError
    (toString page.malformedNodes ++ " Shopify order identity record(s) were malformed and skipped.")
      else report
  have hscanned : (d.received input page).report.ordersScanned =
      d.report.ordersScanned + page.nodesCount := by
    refine Eq.trans (@eligibleOrders_report input page.orders checkedReport).1 ?_
    simp only [checkedReport]
    split <;> rfl
  have hleft' : (d.received input page).ordersLeft input = d.ordersLeft input - page.nodesCount := by
    unfold ordersLeft
    rw [hscanned]
    omega
  have heligible : (eligibleOrders input page.orders checkedReport).1.length ≤ page.nodesCount := by
    refine (eligibleOrders_length page.orders checkedReport).trans ?_
    rw [heq]
    exact List.length_filterMap_le _ _
  have hrank : (d.received input page).rank input =
      (d.received input page).pageRank input page.hasNextPage +
        5 * (eligibleOrders input page.orders checkedReport).1.length + 7 := rfl
  rw [hrank]
  unfold pageRank
  rw [hleft']
  split
  next hnext =>
    -- a page that is not the last one has an order
    have hone : 0 < page.nodesCount := by
      refine hpos fun hnil => ?_
      rw [heq] at hnext
      have hlt := of_decide_eq_true hnext
      rw [List.drop_eq_nil_iff] at hnil
      omega
    omega
  next => omega

/-- **Every step of a run comes closer to its end.** -/
lemma run_rank {answer : DiscoveryAnswer} (hserves : ServesOrders input orders d (.run answer))
    (hrun : d.run input answer = some d') : d'.rank input < d.rank input := by
  obtain ⟨store, report, position, checked, interrupted⟩ := d
  unfold run at hrun
  dsimp only at hrun
  split at hrun
  case h_1 =>
    obtain rfl := Option.some.inj hrun
    exact received_rank hserves
  case h_2 =>
    obtain rfl := Option.some.inj hrun
    exact (thrown_rank _).trans_lt (by simp only [rank]; omega)
  case h_3 =>
    obtain rfl := Option.some.inj hrun
    simp only [goto, check, rank, pageRank, ordersLeft]
    omega
  case h_4 page pending _ =>
    obtain rfl := Option.some.inj hrun
    refine (nextOrder_rank page _).trans_lt ?_
    simp only [rank, List.length_map]
    omega
  case h_5 page order intake queue _ =>
    obtain rfl := Option.some.inj hrun
    split
    next =>
      refine (nextOrder_rank page queue).trans_lt ?_
      simp only [check, rank, pageRank, ordersLeft]
      omega
    next =>
      simp only [goto, check, rank, pageRank, ordersLeft]
      omega
  case h_9 page order queue _ =>
    obtain rfl := Option.some.inj hrun
    split
    next =>
      simp only [goto, check, rank, pageRank, ordersLeft]
      omega
    next =>
      refine (nextOrder_rank page queue).trans_lt ?_
      simp only [check, rank, pageRank, ordersLeft]
      omega
  case h_6 | h_7 =>
    obtain rfl := Option.some.inj hrun
    simp only [goto, rank, pageRank, ordersLeft]
    omega
  case h_10 page order queue _ =>
    obtain rfl := Option.some.inj hrun
    refine (nextOrder_rank page queue).trans_lt ?_
    simp only [withStore, rank, pageRank, ordersLeft]
    omega
  case h_8 | h_11 | h_12 | h_13 | h_14 | h_15 | h_16 =>
    obtain rfl := Option.some.inj hrun
    refine (orderFailed_rank _ _).trans_lt ?_
    simp only [withStore, rank, pageRank, ordersLeft]
    omega
  case h_17 | h_25 =>
    obtain rfl := Option.some.inj hrun
    exact finish_rank.trans_lt (by simp only [rank]; omega)
  case h_21 =>
    obtain rfl := Option.some.inj hrun
    split <;> simp [goto, rank]
  case h_19 | h_22 | h_23 | h_35 | h_36 | h_37 =>
    obtain rfl := Option.some.inj hrun
    simp only [goto, rank, Nat.lt_add_one]
  case h_38 => cases hrun
  -- the steps that end in the `catch` clause of the run
  all_goals
    obtain rfl := Option.some.inj hrun
    refine (thrown_rank _).trans_lt ?_
    simp only [rank]
    omega

end DiscoveryState

/-- A step of the run itself. -/
def DiscoveryMove.isRun : DiscoveryMove → Bool
  | .run _ => true
  | .ingest _ => false

/-- The request or the statement did what it was asked for. -/
def DiscoveryAnswer.Answered : DiscoveryAnswer → Prop
  | .page (.ok _) | .statement _ => True
  | _ => False

/-- No run takes more than a fixed number of steps, and one that has not ended can take another. -/
def DiscoveryTerminates (input : DiscoveryInput) (orders : List RecentOrderNode)
    (s₀ : DiscoveryStore) : Prop :=
  (∀ ms d, runActions (guarded (ServesOrders input orders) () (DiscoveryMove.step input)) ms
      (.begin input s₀) = .ok d → ms.countP DiscoveryMove.isRun ≤
        20 * input.maxOrders.toNat + 40) ∧
    ∀ d, DiscoveryReaches input orders s₀ d → (∀ result, d.position ≠ .ended result) →
      ∃ answer d', answer.Answered ∧ ServesOrders input orders d (.run answer) ∧
        d.run input answer = some d'

namespace DiscoveryState

variable {input : DiscoveryInput} {orders : List RecentOrderNode} {s₀ : DiscoveryStore}
  {d d' : DiscoveryState}

/-- The steps of a run are paid for by its rank. -/
lemma countP_add_rank {ms : List DiscoveryMove}
    (h : runActions (guarded (ServesOrders input orders) () (DiscoveryMove.step input)) ms d =
      .ok d') : ms.countP DiscoveryMove.isRun + d'.rank input ≤ d.rank input := by
  induction ms generalizing d with
  | nil =>
      obtain rfl := Except.ok.inj h
      simp
  | cons m ms ih =>
      unfold runActions at h
      rw [List.foldlM_cons, bind_eq_ok] at h
      obtain ⟨u, hu, hrest⟩ := h
      have hle := ih hrest
      unfold guarded at hu
      split at hu
      next hserves =>
        rcases step_ok.mp hu with ⟨answer, rfl, hrun⟩ | ⟨id, rfl, rfl⟩
        · have hlt := run_rank hserves hrun
          rw [List.countP_cons_of_pos rfl]
          omega
        · rw [List.countP_cons_of_neg (by simp [DiscoveryMove.isRun])]
          exact hle
      next => cases hu

lemma begin_rank : (begin input s₀).rank input ≤ 20 * input.maxOrders.toNat + 40 := by
  unfold begin loopHead
  split
  · simp [goto, rank, ordersLeft, MissedOrderDiscoveryReport.new]
  · exact afterLoop_rank.trans (by omega)

/-- Shopify can serve a page. -/
lemma exists_servesPage (after : Option ℕ) {first : ℕ} (hfirst : 0 < first) :
    ∃ page, ServesPage orders after first page := by
  obtain ⟨rest, hrest⟩ : ∃ rest, rest = orders.drop (after.getD 0) := ⟨_, rfl⟩
  obtain ⟨n, hn⟩ : ∃ n, n = min first rest.length := ⟨_, rfl⟩
  have hcount : (rest.take n).length = n := by
    rw [List.length_take]
    omega
  refine ⟨pageOfNodes (rest.take n) (decide (after.getD 0 + n < orders.length))
    (if after.getD 0 + n < orders.length then some (after.getD 0 + n) else none), ?_⟩
  have hnodes : ∀ more cursor, (pageOfNodes (rest.take n) more cursor).nodesCount = n :=
    fun _ _ => hcount
  unfold ServesPage
  simp only [hnodes, ← hrest]
  have hpos : rest ≠ [] → 0 < n := by
    intro hne
    have := List.length_pos_iff.mpr hne
    omega
  exact ⟨by omega, by omega, hpos, trivial⟩

lemma exists_step (h : d.Invariant input orders s₀) (hend : ∀ result, d.position ≠ .ended result) :
    ∃ answer d', answer.Answered ∧ ServesOrders input orders d (.run answer) ∧
      d.run input answer = some d' := by
  obtain ⟨store, report, position, checked, interrupted⟩ := d
  cases position with
  | fetch after =>
      obtain ⟨-, hcap, -⟩ := h.position
      dsimp only at hcap
      have hfirst : 0 < first input ⟨store, report, .fetch after, checked, interrupted⟩ := by
        unfold first MISSED_ORDER_DISCOVERY_PAGE_SIZE
        dsimp only
        omega
      obtain ⟨page, hpage⟩ := @exists_servesPage orders after _ hfirst
      exact ⟨.page (.ok page), _, trivial, hpage, rfl⟩
  | ended result => exact absurd rfl (hend result)
  | _ => exact ⟨.statement 0, _, trivial, trivial, rfl⟩

lemma terminates (hcap : 0 < input.maxOrders) (hs : s₀.WellFormed) :
    DiscoveryTerminates input orders s₀ := by
  refine ⟨fun ms d hrun => ?_, fun d hreach hend => ?_⟩
  · have hcount := countP_add_rank hrun
    have hbegin := @begin_rank input s₀
    omega
  · exact exists_step (invariant_of_reaches hcap hs hreach) hend

/-! ## What a run reports -/

/-- Every order that Shopify serves is well formed, and covered if it is in the window. -/
def CoversAll (input : DiscoveryInput) (orders : List RecentOrderNode) (d : DiscoveryState) : Prop :=
  ∀ node ∈ orders, d.store.CoversNode input [] node

end DiscoveryState

/-- **The discovery misses nothing that it claims to have covered.**  A run with a positive cap
terminates.  If it reports to be complete, every order of the window is covered, and an open signal
is one of an order that was not local when last checked; it is truncated if and only if the cap was
reached while Shopify had more orders; and it resolves no signal of an order that is missing. -/
theorem missedOrderDiscovery_covers {input : DiscoveryInput} {orders : List RecentOrderNode}
    {s₀ : DiscoveryStore} (hcap : 0 < input.maxOrders) (hs : s₀.WellFormed) :
    DiscoveryTerminates input orders s₀ ∧
      ∀ d report, DiscoveryReaches input orders s₀ d → d.position = .ended (.ok report) →
        (report.complete = true → d.CoversAll input orders ∧ d.Settled) ∧
          (d.interrupted = false → (report.truncated = true ↔
            input.maxOrders ≤ report.ordersScanned ∧ report.ordersScanned < orders.length)) ∧
          d.ResolvesOnlyLocal s₀ := by
  refine ⟨DiscoveryState.terminates hcap hs, fun d report hreach hended => ?_⟩
  obtain ⟨hbase, hposition, hdecided⟩ := DiscoveryState.invariant_of_reaches hcap hs hreach
  have hover : d.LoopOver := by
    unfold DiscoveryState.LoopOver
    rw [hended]
    trivial
  unfold DiscoveryState.InPosition at hposition
  rw [hended] at hposition
  obtain ⟨rfl, hcomplete⟩ := hposition
  refine ⟨fun hc => ?_, fun hcaught => ⟨fun ht => (hbase.truncated ht).2, fun hreached => ?_⟩,
    hbase.resolved⟩
  · obtain ⟨hfinished, hsettled⟩ := hcomplete hc
    refine ⟨fun node hnode => hfinished.done hc node ?_, hsettled⟩
    rw [List.take_of_length_le hfinished.scanned]
    exact hnode
  · exact hdecided hover hcaught hreached.1 hreached.2

section Samples

def sampleOrderNode : RecentOrderNode :=
  ⟨some "gid://shopify/Order/1001", some ⟨"1001", by decide⟩, some "#1001",
    some ⟨"1970-01-01T00:00:00Z", some 0⟩⟩

def sampleOrderNodes : List RecentOrderNode :=
  [sampleOrderNode,
    { sampleOrderNode with id := some "gid://shopify/Order/1002"
                           legacyResourceId := some ⟨"1002", by decide⟩ },
    { sampleOrderNode with id := some "gid://shopify/Order/1003"
                           legacyResourceId := some ⟨"1003", by decide⟩ }]

def sampleDiscoveryInput (maxOrders : ℤ) : DiscoveryInput := ⟨1000, 7, 0, maxOrders, false⟩

def sampleDiscoveryStore : DiscoveryStore := ⟨[], [], []⟩

lemma sampleDiscoveryStore_wellFormed : sampleDiscoveryStore.WellFormed :=
  ⟨.nil _, fun _ h => by cases h⟩

def sampleStatements (n : ℕ) : List DiscoveryMove :=
  (List.range n).map fun t => .run (.statement t)

/-- Shopify serves two pages.  The first order is missing; the second is ingested after the page is
read, and the third after its signal is written. -/
def sampleDiscovery : List DiscoveryMove :=
  [.run (.page (.ok (pageOfNodes (sampleOrderNodes.take 2) true (some 2))))] ++ sampleStatements 6 ++
    [.ingest "1002"] ++ sampleStatements 1 ++
    [.run (.page (.ok (pageOfNodes (sampleOrderNodes.drop 2) false none)))] ++ sampleStatements 5 ++
    [.ingest "1003"] ++ sampleStatements 7

/-- Two of the orders are found to be missing, and the signal of one is resolved again. -/
theorem missedOrderDiscovery_covers_missing : ∃ d report,
    DiscoveryReaches (sampleDiscoveryInput 5) sampleOrderNodes sampleDiscoveryStore d ∧
      d.position = .ended (.ok report) ∧ report.complete = true ∧
        d.store.signals.map (·.resolvedAt.isSome) = [false, true] ∧
          d.CoversAll (sampleDiscoveryInput 5) sampleOrderNodes := by
  have hrun : Succeeds (runActions (guarded (ServesOrders (sampleDiscoveryInput 5)
      sampleOrderNodes) () (DiscoveryMove.step (sampleDiscoveryInput 5))) sampleDiscovery
        (.begin (sampleDiscoveryInput 5) sampleDiscoveryStore)) fun d =>
      d.position = .ended (.ok ⟨true, false, 3, 2, 0, []⟩) ∧
        d.store.signals.map (·.resolvedAt.isSome) = [false, true] := by
    decide +kernel
  obtain ⟨d, hd, hended, hsignals⟩ := succeeds_iff.mp hrun
  have hreach : DiscoveryReaches (sampleDiscoveryInput 5) sampleOrderNodes sampleDiscoveryStore d :=
    reachable_of_runGuarded (.start rfl) hd
  refine ⟨d, _, hreach, hended, rfl, hsignals, ?_⟩
  have h := (missedOrderDiscovery_covers (by decide) sampleDiscoveryStore_wellFormed).2 d _ hreach
    hended
  exact (h.1 rfl).1

/-- With a cap of zero the run ends at once, and reports to be complete. -/
theorem missedOrderDiscovery_noCap : ∃ d report,
    DiscoveryReaches (sampleDiscoveryInput 0) [sampleOrderNode] sampleDiscoveryStore d ∧
      d.position = .ended (.ok report) ∧ report.complete = true ∧
        ¬d.CoversAll (sampleDiscoveryInput 0) [sampleOrderNode] := by
  have hrun : Succeeds (runActions (guarded (ServesOrders (sampleDiscoveryInput 0)
      [sampleOrderNode]) () (DiscoveryMove.step (sampleDiscoveryInput 0)))
        [.run (.statement 1), .run (.statement 2), .run (.statement 3)]
        (.begin (sampleDiscoveryInput 0) sampleDiscoveryStore)) fun d =>
      d.position = .ended (.ok ⟨true, false, 0, 0, 0, []⟩) ∧ d.store.signals = [] ∧
        d.store.localOrders = [] := by
    decide +kernel
  obtain ⟨d, hd, hended, hsignals, hlocal⟩ := succeeds_iff.mp hrun
  refine ⟨d, _, reachable_of_runGuarded (.start rfl) hd, hended, rfl, fun hcovers => ?_⟩
  obtain ⟨order, horder, t, htime, hcovered⟩ := hcovers sampleOrderNode (List.mem_singleton_self _)
  have horder' : order = ⟨"gid://shopify/Order/1001", ⟨"1001", by decide⟩, "#1001",
      ⟨"1970-01-01T00:00:00Z", some 0⟩⟩ := (Option.some.inj horder).symm
  subst horder'
  obtain rfl : (0 : Instant) = t := Option.some.inj htime
  rcases hcovered (by decide) with hpending | hcov
  · cases hpending
  · rcases hcov with hmem | ⟨hexecutor, -⟩ | ⟨r, hr, -⟩
    · rw [hlocal] at hmem
      cases hmem
    · cases hexecutor
    · rw [hsignals] at hr
      cases hr

end Samples

end VendorDashboard.Shopify

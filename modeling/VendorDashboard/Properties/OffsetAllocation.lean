import Mathlib.Data.Prod.Lex
import VendorDashboard.Finance.PayoutOffsetReservation

/-!
# What a reservation gives to whom

The claims that a first reservation creates allocate the open sources to the settlements of the
batch, oldest first on both sides (`FifoAllocation`).  The greedy loop is `Waterfall.serve`; here
its two lists are matched with the orders by which the service sorts, and its draws with the rows.
-/

namespace VendorDashboard.Finance

open Table Transaction Waterfall

/-! ## The orders -/

/-- In a sorted list the smaller of two members comes first. -/
lemma exists_insertionSort_eq {α : Type} {r : α → α → Prop} [DecidableRel r] [Std.Total r]
    [IsTrans α r] {l : List α} {x y : α} (hx : x ∈ l) (hy : y ∈ l) (hnot : ¬r y x) :
    ∃ l₁ l₂, l.insertionSort r = l₁ ++ y :: l₂ ∧ x ∈ l₁ := by
  obtain ⟨l₁, l₂, hl⟩ := List.append_of_mem ((List.mem_insertionSort r).mpr hy)
  refine ⟨l₁, l₂, hl, ?_⟩
  have hxl := (List.mem_insertionSort r).mpr hx
  have hsorted := List.pairwise_insertionSort r l
  rw [hl] at hxl hsorted
  rcases List.mem_append.mp hxl with hxl | hxl
  · exact hxl
  · have hback := (List.pairwise_cons.mp (List.pairwise_append.mp hsorted).2.1).1
    rcases List.mem_cons.mp hxl with rfl | hxl
    · exact absurd ((Std.Total.total (r := r) x x).elim id id) hnot
    · exact absurd (hback x hxl) hnot

namespace PayoutOffsetSourceDiagnostic

variable (s : PayoutOffsetSourceDiagnostic)

def key : FinanceDb.SourceKey := (s.sourceType, s.sourceId)

/-- What is open of a source. -/
def unreservedMinor : ℤ := s.unreservedAmountMinor.getD 0

/-- Where a source stands in the order of the report. -/
def rank : ℕ ×ₗ ℤ ×ₗ ℕ ×ₗ ℕ :=
  toLex (if s.verifiedAt.isSome then 0 else 1, toLex (s.verifiedAt.getD 0,
    toLex (if s.sourceType = .refundAdjustment then 0 else 1, s.sourceId)))

end PayoutOffsetSourceDiagnostic

/-- Where a settlement stands in the order of approval. -/
def ApprovalCapacity.rank (c : ApprovalCapacity) : ℤ ×ₗ ℕ := toLex (c.approvedAt, c.approvalId)

namespace FinanceDb

lemma sourceLe_iff {a b : PayoutOffsetSourceDiagnostic} :
    sourceLe a b = true ↔ a.rank ≤ b.rank := by
  unfold sourceLe PayoutOffsetSourceDiagnostic.rank
  simp only [Prod.Lex.toLex_le_toLex]
  cases ha : a.sourceType <;> cases hb : b.sourceType <;> cases a.verifiedAt <;>
    cases b.verifiedAt <;> simp

instance : Std.Total fun a b : PayoutOffsetSourceDiagnostic => sourceLe a b = true :=
  ⟨fun a b => by
    rw [sourceLe_iff, sourceLe_iff]
    exact le_total _ _⟩

instance : IsTrans PayoutOffsetSourceDiagnostic fun a b => sourceLe a b = true :=
  ⟨fun a b c => by
    rw [sourceLe_iff, sourceLe_iff, sourceLe_iff]
    exact le_trans⟩

/-- The order by which the service sorts the settlements. -/
abbrev ApprovedBefore (x y : ApprovalCapacity) : Prop :=
  x.approvedAt < y.approvedAt ∨ (x.approvedAt = y.approvedAt ∧ x.approvalId ≤ y.approvalId)

lemma approvedBefore_iff {x y : ApprovalCapacity} : ApprovedBefore x y ↔ x.rank ≤ y.rank := by
  unfold ApprovalCapacity.rank
  rw [Prod.Lex.toLex_le_toLex]

instance : Std.Total ApprovedBefore :=
  ⟨fun a b => by
    rw [approvedBefore_iff, approvedBefore_iff]
    exact le_total _ _⟩

instance : IsTrans ApprovalCapacity ApprovedBefore :=
  ⟨fun a b c => by
    rw [approvedBefore_iff, approvedBefore_iff, approvedBefore_iff]
    exact le_trans⟩

/-! ## The property -/

/-- The sources that have something open. -/
def openSources (sources : List PayoutOffsetSourceDiagnostic) :
    List PayoutOffsetSourceDiagnostic :=
  sources.filter fun s => decide (0 < s.unreservedMinor)

/-- The claim draws on the source. -/
def DrawsOn (c : PayoutOffsetClaim) (s : PayoutOffsetSourceDiagnostic) : Prop :=
  c.sourceType = s.sourceType ∧ c.sourceId = some s.sourceId

instance (c : PayoutOffsetClaim) (s : PayoutOffsetSourceDiagnostic) : Decidable (DrawsOn c s) :=
  inferInstanceAs (Decidable (_ ∧ _))

/-- What the claims take from the payable of a settlement. -/
def claimedOn (claims : List PayoutOffsetClaim) (approvalId : Id) : ℤ :=
  total (fun c => decide (c.settlementApprovalId = approvalId)) (·.reservedAmountMinor) claims

/-- What the claims draw from a source. -/
def drawnFrom (claims : List PayoutOffsetClaim) (s : PayoutOffsetSourceDiagnostic) : ℤ :=
  total (fun c => decide (DrawsOn c s)) (·.reservedAmountMinor) claims

/-- The claims allocate the sources to the settlements, oldest first. -/
structure FifoAllocation (capacity : List ApprovalCapacity)
    (sources : List PayoutOffsetSourceDiagnostic) (claims : List PayoutOffsetClaim) : Prop where
  lineage : ∀ c ∈ claims, c.settlementApprovalId ∈ capacity.map (·.approvalId) ∧
    ∃ s ∈ sources, DrawsOn c s
  positive : ∀ c ∈ claims, 0 < c.reservedAmountMinor
  once : (claims.map fun c => (c.settlementApprovalId, c.sourceType, c.sourceId)).Nodup
  withinCapacity : ∀ a ∈ capacity, claimedOn claims a.approvalId ≤ a.availableMinor
  withinBalance : ∀ s ∈ sources, drawnFrom claims s ≤ s.unreservedMinor
  total_eq : (claims.map (·.reservedAmountMinor)).sum =
    min (capacity.map (·.availableMinor)).sum
      (sources.map (·.unreservedMinor)).sum
  maximal : ∀ a ∈ capacity, claimedOn claims a.approvalId < a.availableMinor →
    ∀ s ∈ sources, drawnFrom claims s = s.unreservedMinor
  sourcesInOrder : ∀ s ∈ sources, ∀ t ∈ sources, s.rank < t.rank → (∃ c ∈ claims, DrawsOn c t) →
    drawnFrom claims s = s.unreservedMinor
  approvalsInOrder : ∀ a ∈ capacity, ∀ b ∈ capacity, a.rank < b.rank →
    (∃ c ∈ claims, c.settlementApprovalId = b.approvalId) →
      claimedOn claims a.approvalId = a.availableMinor

/-! ## The planned claims -/

section Planned

variable {sources : List PayoutOffsetSourceDiagnostic} {capacity : List ApprovalCapacity}

/-- The open sources in the order in which they are drawn from. -/
def drawOrder (sources : List PayoutOffsetSourceDiagnostic) : List SourceKey :=
  ((openSources sources).insertionSort fun x y => sourceLe x y).map (·.key)

/-- The settlements in the order in which they are served. -/
def serveOrder (capacity : List ApprovalCapacity) : List (Id × ℤ) :=
  (capacity.insertionSort ApprovedBefore).map fun c => (c.approvalId, c.availableMinor)

lemma plannedClaims_eq : plannedClaims sources capacity =
    serve (unreservedOf sources) (serveOrder capacity) (drawOrder sources) := rfl

lemma unreservedOf_key (hkeys : KeyUnique PayoutOffsetSourceDiagnostic.key sources)
    {s : PayoutOffsetSourceDiagnostic} (hs : s ∈ sources) :
    unreservedOf sources s.key = s.unreservedMinor := by
  have hfind : findRow PayoutOffsetSourceDiagnostic.key s.key sources = some s :=
    findRow_of_mem hkeys hs
  unfold findRow at hfind
  unfold unreservedOf
  show ((sources.find? fun s' => decide (s'.key = s.key)).bind _).getD 0 = _
  rw [hfind]
  rfl

lemma drawOrder_nodup (hkeys : KeyUnique PayoutOffsetSourceDiagnostic.key sources) :
    (drawOrder sources).Nodup := by
  have hperm := (List.perm_insertionSort (fun x y => sourceLe x y = true)
    (openSources sources)).map PayoutOffsetSourceDiagnostic.key
  refine hperm.nodup_iff.mpr ?_
  exact hkeys.sublist (List.filter_sublist.map _)

lemma mem_drawOrder {s : PayoutOffsetSourceDiagnostic} (hs : s ∈ openSources sources) :
    s.key ∈ drawOrder sources :=
  List.mem_map_of_mem ((List.mem_insertionSort _).mpr hs)

lemma unreservedOf_nonneg (hkeys : KeyUnique PayoutOffsetSourceDiagnostic.key sources) :
    ∀ k ∈ drawOrder sources, 0 ≤ unreservedOf sources k := by
  intro k hk
  obtain ⟨s, hs, rfl⟩ := List.mem_map.mp hk
  obtain ⟨hs, hpos⟩ := List.mem_filter.mp ((List.mem_insertionSort _).mp hs)
  rw [unreservedOf_key hkeys hs]
  exact (of_decide_eq_true hpos).le

lemma serveOrder_nodup (hids : (capacity.map (·.approvalId)).Nodup) :
    ((serveOrder capacity).map Prod.fst).Nodup := by
  unfold serveOrder
  rw [List.map_map]
  exact ((List.perm_insertionSort ApprovedBefore capacity).map _).nodup_iff.mpr hids

lemma serveOrder_nonneg (hcapacity : ∀ c ∈ capacity, 0 ≤ c.availableMinor) :
    ∀ d ∈ serveOrder capacity, 0 ≤ d.2 := by
  intro d hd
  obtain ⟨c, hc, rfl⟩ := List.mem_map.mp hd
  exact hcapacity c ((List.mem_insertionSort _).mp hc)

lemma mem_serveOrder {a : ApprovalCapacity} (ha : a ∈ capacity) :
    (a.approvalId, a.availableMinor) ∈ serveOrder capacity :=
  List.mem_map_of_mem ((List.mem_insertionSort _).mpr ha)

lemma sum_serveOrder : ((serveOrder capacity).map Prod.snd).sum =
    (capacity.map (·.availableMinor)).sum := by
  unfold serveOrder
  rw [List.map_map]
  exact ((List.perm_insertionSort ApprovedBefore capacity).map _).sum_eq

lemma capacity_drawOrder (hkeys : KeyUnique PayoutOffsetSourceDiagnostic.key sources) :
    Waterfall.capacity (unreservedOf sources) (drawOrder sources) =
      ((openSources sources).map (·.unreservedMinor)).sum := by
  unfold Waterfall.capacity drawOrder
  rw [List.map_map]
  have hperm := (List.perm_insertionSort (fun x y => sourceLe x y = true)
    (openSources sources)).map ((fun k => max (unreservedOf sources k) 0) ∘
      PayoutOffsetSourceDiagnostic.key)
  rw [hperm.sum_eq]
  refine congrArg _ (List.map_congr_left fun s hs => ?_)
  obtain ⟨hs, hpos⟩ := List.mem_filter.mp hs
  rw [Function.comp_apply, unreservedOf_key hkeys hs]
  exact max_eq_left (of_decide_eq_true hpos).le

/-! ## The rows -/

variable {input : ReservationInput} {now : Instant}

lemma claimRow_sourceId (i : Id) (w : Id × SourceKey × ℤ) :
    (claimRow input now i w).sourceId = some w.2.1.2 := by
  obtain ⟨approvalId, ⟨sourceType, sourceId⟩, amount⟩ := w
  cases sourceType <;> rfl

lemma drawsOn_claimRow (i : Id) (w : Id × SourceKey × ℤ) (s : PayoutOffsetSourceDiagnostic) :
    DrawsOn (claimRow input now i w) s ↔ w.2.1 = s.key := by
  unfold DrawsOn PayoutOffsetSourceDiagnostic.key
  rw [claimRow_sourceId, Option.some.injEq, Prod.ext_iff]
  rfl

variable {n : ℕ} {planned : List (Id × SourceKey × ℤ)}

lemma claimedOn_withIds (approvalId : Id) :
    claimedOn (withIds (claimRow input now) n planned) approvalId = served planned approvalId := by
  unfold claimedOn served
  refine total_withIds (fun i w => ?_) (fun i w => ?_) n planned
  · rfl
  · rfl

lemma drawnFrom_withIds (s : PayoutOffsetSourceDiagnostic) :
    drawnFrom (withIds (claimRow input now) n planned) s =
      drawn (planned.map Prod.snd) s.key := by
  have hrows : drawnFrom (withIds (claimRow input now) n planned) s =
      total (fun w => decide (w.2.1 = s.key)) (·.2.2) planned := by
    unfold drawnFrom
    refine total_withIds (fun i w => ?_) (fun i w => ?_) n planned
    · exact decide_eq_decide.mpr (drawsOn_claimRow i w s)
    · rfl
  rw [hrows]
  unfold drawn total
  rw [List.map_map]
  rfl

lemma exists_claim_on {approvalId : Id}
    (h : ∃ c ∈ withIds (claimRow input now) n planned, c.settlementApprovalId = approvalId) :
    approvalId ∈ planned.map Prod.fst := by
  obtain ⟨c, hc, rfl⟩ := h
  obtain ⟨w, hw, i, -, rfl⟩ := mem_withIds hc
  exact List.mem_map_of_mem hw

lemma exists_claim_from {s : PayoutOffsetSourceDiagnostic}
    (h : ∃ c ∈ withIds (claimRow input now) n planned, DrawsOn c s) :
    s.key ∈ planned.map (·.2.1) := by
  obtain ⟨c, hc, hdraws⟩ := h
  obtain ⟨w, hw, i, -, rfl⟩ := mem_withIds hc
  rw [← (drawsOn_claimRow i w s).mp hdraws]
  exact List.mem_map_of_mem hw

/-- **The planned claims allocate the open sources, oldest first.** -/
theorem plannedClaims_fifo (hkeys : KeyUnique PayoutOffsetSourceDiagnostic.key sources)
    (hids : (capacity.map (·.approvalId)).Nodup) (hcapacity : ∀ c ∈ capacity, 0 ≤ c.availableMinor) :
    FifoAllocation capacity (openSources sources)
      (withIds (claimRow input now) n (plannedClaims sources capacity)) := by
  have hdraw := drawOrder_nodup hkeys
  have hopen := unreservedOf_nonneg hkeys
  have hserve := serveOrder_nodup hids
  have hdemands := serveOrder_nonneg hcapacity
  have hunreserved : ∀ s ∈ openSources sources, unreservedOf sources s.key = s.unreservedMinor :=
    fun s hs => unreservedOf_key hkeys (List.mem_filter.mp hs).1
  refine
    { lineage := fun c hc => ?_
      positive := fun c hc => ?_
      once := ?_
      withinCapacity := fun a ha => ?_
      withinBalance := fun s hs => ?_
      total_eq := ?_
      maximal := fun a ha hlt s hs => ?_
      sourcesInOrder := fun s hs t ht hlt hclaim => ?_
      approvalsInOrder := fun a ha b hb hlt hclaim => ?_ }
  · obtain ⟨w, hw, i, -, rfl⟩ := mem_withIds hc
    refine ⟨(mem_plannedClaims hw).1, ?_⟩
    rw [plannedClaims_eq] at hw
    obtain ⟨s, hs, hkey⟩ := List.mem_map.mp (serve_bounds hw).2.1
    exact ⟨s, (List.mem_insertionSort _).mp hs, (drawsOn_claimRow i w s).mpr hkey.symm⟩
  · obtain ⟨w, hw, i, -, rfl⟩ := mem_withIds hc
    exact (mem_plannedClaims hw).2.2
  · have hrows : (withIds (claimRow input now) n (plannedClaims sources capacity)).map
        (fun c => (c.settlementApprovalId, c.sourceType, c.sourceId)) =
          ((plannedClaims sources capacity).map fun w => (w.1, w.2.1)).map fun p =>
            (p.1, p.2.1, some p.2.2) := by
      rw [List.map_map]
      refine map_withIds (fun i w => ?_) n _
      rw [claimRow_sourceId]
      rfl
    have hpairs : ((plannedClaims sources capacity).map fun w => (w.1, w.2.1)).Nodup :=
      serve_nodup hdraw hserve
    rw [hrows]
    refine hpairs.map fun p q heq => ?_
    simp only [Prod.mk.injEq, Option.some.injEq] at heq
    exact Prod.ext heq.1 (Prod.ext heq.2.1 heq.2.2)
  · rw [claimedOn_withIds]
    exact served_serve_le hserve hdemands (mem_serveOrder ha)
  · rw [drawnFrom_withIds, ← hunreserved s hs]
    exact drawn_serve_le hdraw (hopen _ (mem_drawOrder hs))
  · have hrows : (withIds (claimRow input now) n (plannedClaims sources capacity)).map
        (·.reservedAmountMinor) = (plannedClaims sources capacity).map (·.2.2) := by
      refine map_withIds (fun i w => ?_) n _
      rfl
    rw [hrows, ← sum_serveOrder, ← capacity_drawOrder hkeys]
    exact sum_serve hdraw hopen hdemands
  · rw [claimedOn_withIds] at hlt
    rw [drawnFrom_withIds, ← hunreserved s hs]
    exact drawn_serve_eq_of_lt hdraw hopen hserve hdemands (mem_serveOrder ha) hlt (mem_drawOrder hs)
  · rw [drawnFrom_withIds, ← hunreserved s hs, plannedClaims_eq]
    -- the earlier source stands in front of the later one
    have hnot : ¬sourceLe t s = true := by
      rw [sourceLe_iff]
      exact not_le.mpr hlt
    obtain ⟨l₁, l₂, hsorted, hmem⟩ :=
      @exists_insertionSort_eq _ (fun x y => sourceLe x y = true) _ _ _ _ _ _ hs ht hnot
    have horder : drawOrder sources = l₁.map (·.key) ++ t.key :: l₂.map (·.key) := by
      unfold drawOrder
      rw [hsorted, List.map_append, List.map_cons]
    have hdrawn := exists_claim_from hclaim
    rw [plannedClaims_eq] at hdrawn
    rw [horder] at hdraw hopen hdrawn ⊢
    exact drawn_serve_eq hdraw hopen hdrawn (List.mem_map_of_mem hmem)
  · rw [claimedOn_withIds, plannedClaims_eq]
    have hnot : ¬ApprovedBefore b a := by
      rw [approvedBefore_iff]
      exact not_le.mpr hlt
    obtain ⟨l₁, l₂, hsorted, hmem⟩ := @exists_insertionSort_eq _ ApprovedBefore _ _ _ _ _ _ ha hb hnot
    have horder : serveOrder capacity = l₁.map (fun c => (c.approvalId, c.availableMinor)) ++
        (b.approvalId, b.availableMinor) :: l₂.map fun c => (c.approvalId, c.availableMinor) := by
      unfold serveOrder
      rw [hsorted, List.map_append, List.map_cons]
    have hserved := exists_claim_on hclaim
    rw [plannedClaims_eq] at hserved
    rw [horder] at hserve hdemands hserved ⊢
    have hfront : (a.approvalId, a.availableMinor) ∈
        l₁.map fun c => (c.approvalId, c.availableMinor) := List.mem_map_of_mem hmem
    exact served_serve_eq hdraw hopen hserve hdemands hserved hfront

end Planned

/-! ## The reservation -/

section Reservation

variable {db db' : FinanceDb} {vendorId : Id} {currency : String}

lemma nodup_map_pair (type : PayoutOffsetSourceType) {ids : List Id} :
    (ids.map (Prod.mk type)).Nodup ↔ ids.Nodup :=
  List.nodup_map_iff (Prod.mk_right_injective type)

/-- The sources of a report have different keys. -/
lemma authoritySources_key
    (hadjustments : KeyUnique SettlementRefundAdjustment.id db.settlementRefundAdjustment)
    (hevents : KeyUnique VendorBalanceEvent.id db.vendorBalanceEvent) :
    KeyUnique PayoutOffsetSourceDiagnostic.key (db.authoritySources vendorId currency) := by
  unfold KeyUnique authoritySources
  refine ((List.perm_insertionSort _ _).map _).nodup_iff.mpr ?_
  rw [List.map_append, List.map_map, List.map_map]
  refine List.nodup_append.mpr ⟨?_, ?_, ?_⟩
  · have hids : ((db.authorityAdjustments vendorId currency).map (·.id)).Nodup :=
      hadjustments.sublist (List.filter_sublist.map _)
    rw [← nodup_map_pair .refundAdjustment, List.map_map] at hids
    exact hids
  · have hids : ((db.balanceEvents vendorId currency .vendorDebtCreated).map (·.id)).Nodup :=
      hevents.sublist (List.filter_sublist.map _)
    rw [← nodup_map_pair .vendorDebt, List.map_map] at hids
    exact hids
  · rintro k hk _ hk' rfl
    obtain ⟨a, -, rfl⟩ := List.mem_map.mp hk
    obtain ⟨e, -, heq⟩ := List.mem_map.mp hk'
    cases congrArg Prod.fst heq

lemma assertReservable_capacity {input : ReservationInput} {batch : PayoutBatch} {allowOwn : Bool}
    {capacity : List ApprovalCapacity} (h : db.assertReservable input batch allowOwn = .ok capacity) :
    ∀ c ∈ capacity, 0 ≤ c.availableMinor := by
  simp only [assertReservable, bind_eq_ok, require_eq_ok, pure_eq_ok] at h
  obtain ⟨_, -, _, -, _, hnonneg, _, -, _, -, _, -, _, -, _, -, rfl⟩ := h
  intro c hc
  exact of_decide_eq_true (List.all_eq_true.mp hnonneg.1 c hc)

/-- **A first reservation is an oldest-first allocation**: the claims that it creates are positive,
one for each settlement and source, within the payable of the settlements and the balances of the
sources, and as large as both together allow; and on either side the older comes first. -/
theorem reservation_fifo {input : ReservationInput} {allowOwn : Bool} {now : Instant}
    (hadjustments : KeyUnique SettlementRefundAdjustment.id db.settlementRefundAdjustment)
    (hevents : KeyUnique VendorBalanceEvent.id db.vendorBalanceEvent)
    (hfirst : ∀ c ∈ db.payoutOffsetClaim,
      c.requestId ≠ input.requestId ∧ c.payoutBatchId ≠ input.payoutBatchId)
    (h : db.reserveVerifiedPayoutOffsetsInTransaction input allowOwn now = .ok db') :
    ∃ batch capacity claims, db.findBatch input.payoutBatchId = some batch ∧
      db.assertReservable input batch allowOwn = .ok capacity ∧
      db' = { db with payoutOffsetClaim := db.payoutOffsetClaim ++ claims } ∧
      FifoAllocation capacity
        (openSources (db.reconcilePayoutOffsetAuthority input.vendorId input.currency).sources)
        claims := by
  unfold reserveVerifiedPayoutOffsetsInTransaction at h
  obtain ⟨batch, hbatch, h⟩ := bind_eq_ok.mp h
  rw [getOrThrow_eq_ok] at hbatch
  obtain ⟨hfind, -⟩ := Option.filter_eq_some_iff.mp hbatch
  obtain ⟨_, -, h⟩ := bind_eq_ok.mp h
  have hprior : db.payoutOffsetClaim.filter (fun c => decide (c.requestId = input.requestId)) = [] :=
    List.filter_eq_nil_iff.mpr fun c hc heq => (hfirst c hc).1 (of_decide_eq_true heq)
  have hclaims : db.claimsOf batch.id = [] := by
    refine List.filter_eq_nil_iff.mpr fun c hc heq => (hfirst c hc).2 ?_
    have hid : batch.id = input.payoutBatchId := key_of_findRow hfind
    exact (of_decide_eq_true heq).trans hid
  dsimp only at h
  rw [hprior, hclaims] at h
  simp only [List.isEmpty_nil, Bool.and_self, if_true, bind_eq_ok, insertRows_eq_ok, pure_eq_ok]
    at h
  obtain ⟨capacity, hcapacity, _, ⟨-, rfl⟩, rfl⟩ := h
  refine ⟨batch, capacity, _, hfind, hcapacity, rfl, ?_⟩
  refine plannedClaims_fifo (authoritySources_key hadjustments hevents) ?_
    (assertReservable_capacity hcapacity)
  rw [(assertReservable_ok hcapacity).1]
  exact nodup_eraseDups _

end Reservation

end FinanceDb

/-! ## A reservation -/

/-- A vendor owes 100.00 and 30.00 for refunds of paid sales, and a draft batch pays settlements of
70.00 and 80.00. -/
def twoDebts : FinanceDb :=
  { FinanceDb.empty with
    vendorAllocation := [allocationRow
      [⟨1, 1, 1, "1", some 100, true, 0⟩, ⟨2, 1, 2, "1", some 30, true, 0⟩]]
    financeLedgerEntry := [ledgerRow 1 .sale 200 .paid none,
      ledgerRow 2 .refund 100 .hold (some ⟨1, "1", 1, 1, 2, 1, 1, true, 100, "TRY", 5⟩),
      ledgerRow 3 .refund 30 .hold (some ⟨2, "1", 1, 2, 3, 1, 1, true, 30, "TRY", 6⟩),
      ledgerRow 4 .sale 70 .approved none, ledgerRow 5 .sale 80 .approved none]
    settlementApproval := [approvalRow 1 7000 10, approvalRow 2 8000 11]
    settlementApprovalLine := [lineRow 1 1 4 7000, lineRow 2 2 5 8000]
    payoutBatch := [batchRow]
    payoutBatchLine := [⟨1, 1, 4, some 1, 70⟩, ⟨2, 1, 5, some 2, 80⟩]
    vendorBalanceEvent := [debtRow 1 (-10000) 1 2, debtRow 2 (-3000) 2 3] }
where
  allocationRow (refundRecords : List RefundRecord) : VendorAllocation :=
    { id := 1, sourceShopifyOrderId := "1", sourceShopifyOrderNumber := "1", orderId := some 1
      orderCurrency := "TRY", orderCancelledAt := none, allocationStatus := .fulfilled
      cancelRefundReviewStatus := none, customerCancellationRequestItems := []
      fulfillmentStatus := "", shippingStatus := "", fulfilledAt := some 0
      outboundMethodSnapshot := none, outboundIntegrationProviderSnapshot := none
      deliveredObservation := none, refundRecords, returnRecords := [] }
  ledgerRow (id : Id) (type : EntryType) (amount : ℚ) (payoutStatus : PayoutStatus)
      (evidence : Option RefundEvidenceSnapshot) : FinanceLedgerEntry :=
    { id, vendorAllocationId := some 1, vendorId := 1, entryType := type, amount
      payoutStatus, settlementStatus := .payable, settlementHoldReason := none
      commissionPercentSnapshot := some 0, commissionVatPercentSnapshot := some 0
      deductShippingEnabledSnapshot := some false, shippingModeSnapshot := some .disabled
      fixedShippingFeeSnapshot := none, shippingCostSnapshot := none, shippingVatAmountSnapshot := none
      settlementDelayDaysSnapshot := 0, settledAt := none, voidedAt := none, createdAt := 0
      refundEvidenceSnapshot := evidence }
  approvalRow (id : Id) (netPayableMinor : ℤ) (approvedAt : Instant) : SettlementApproval :=
    { id, vendorId := 1, status := .approved, currency := "TRY", periodStart := none
      periodEnd := none, scheduledRunDate := none, scheduledPeriodEnd := none
      scheduledCycleKey := none, replacesSettlementApprovalId := none
      lateRefundLedgerIds := [], grossSalesMinor := netPayableMinor, refundTotalMinor := 0
      commissionMinor := 0, commissionVatMinor := 0, netPayableMinor
      correctionCreditMinor := 0, correctionDeductionMinor := 0, approvedAt := some approvedAt
      cancelledFromStatus := none }
  lineRow (id settlementApprovalId financeLedgerEntryId : Id) (amountMinor : ℤ) :
      SettlementApprovalLine :=
    { id, settlementApprovalId, financeLedgerEntryId, settlementRefundAdjustmentId := none
      settlementRefundAdjustmentApplicationId := none, lineType := .sale, amountMinor
      commissionMinor := 0, commissionVatMinor := 0, payableImpactMinor := amountMinor
      snapshotRefundCount := 0, snapshotAdjustmentId := none }
  batchRow : PayoutBatch :=
    { id := 1, vendorId := 1, status := .draft, grossAmount := 150, commissionAmount := 0
      commissionVatAmount := 0, shippingDeductionAmount := 0, refundAmount := 0
      netAmount := 150, r1OffsetTotalMinor := 0, correctionCreditAmount := 0
      correctionDeductionAmount := 0, currency := "TRY", createdAt := 0
      paidAt := none, eftExecutedAt := none }
  debtRow (id : Id) (amountMinor : ℤ) (refundRecordId ledgerId : Id) : VendorBalanceEvent :=
    { id, vendorId := 1, type := .vendorDebtCreated, amountMinor, currency := "TRY"
      source := .shopifyRefund refundRecordId, financeLedgerEntryId := some ledgerId
      refundRecordId := some refundRecordId, payoutBatchId := none
      financialCorrectionAuthority := none }

/-- The older settlement draws 70.00 on the older debt, and the other one the rest of both. -/
theorem reservation_fifo_twoDebts : ∃ db' batch capacity claims,
    twoDebts.reserveVerifiedPayoutOffsetsInTransaction ⟨1, "TRY", 1, 1, 1, 1⟩ false 20 = .ok db' ∧
      db'.payoutOffsetClaim.map (fun c => (c.settlementApprovalId, c.sourceId,
        c.reservedAmountMinor)) = [(1, some 1, 7000), (2, some 1, 3000), (2, some 2, 3000)] ∧
      twoDebts.findBatch 1 = some batch ∧
      db' = { twoDebts with payoutOffsetClaim := twoDebts.payoutOffsetClaim ++ claims } ∧
      FinanceDb.FifoAllocation capacity
        (FinanceDb.openSources (twoDebts.reconcilePayoutOffsetAuthority 1 "TRY").sources) claims := by
  have hrun : Succeeds (twoDebts.reserveVerifiedPayoutOffsetsInTransaction
      ⟨1, "TRY", 1, 1, 1, 1⟩ false 20) fun db' =>
        db'.payoutOffsetClaim.map (fun c => (c.settlementApprovalId, c.sourceId,
          c.reservedAmountMinor)) = [(1, some 1, 7000), (2, some 1, 3000), (2, some 2, 3000)] := by
    decide +kernel
  obtain ⟨db', hok, hclaims⟩ := succeeds_iff.mp hrun
  obtain ⟨batch, capacity, claims, hbatch, -, hdb, hfifo⟩ := FinanceDb.reservation_fifo
    (by decide +kernel) (by decide +kernel) (by decide +kernel) hok
  exact ⟨db', batch, capacity, claims, hok, hclaims, hbatch, hdb, hfifo⟩

end VendorDashboard.Finance

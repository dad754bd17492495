import VendorDashboard.Orders.AllocationSplit

/-!
# Repeating an allocation split

A split that is repeated computes its ids again, from the lines that are selected by then.  The
ids of allocation lines are taken from the input and stay; Shopify ids are looked up among the lines
of the source allocation, which the split has moved away.

`SplitWritten` says what a new split leaves in the database, and `split_replay_iff` when the same
call finds it there.
-/

namespace VendorDashboard.AllocationSplit

open Finance (Instant)
open Table Text Transaction

/-! ## What a split writes -/

/-- What a new split leaves. -/
structure SplitWritten (ids : SplitIds) (planner : AllocationSplitPlannerResult)
    (sourceLedger : FinanceLedgerEntry) (db db' : SplitDb) : Prop where
  allocations : ∃ child, child.id = ids.childAllocationId ∧
    KeyUnique VendorAllocation.id (db.vendorAllocation ++ [child]) ∧
    db'.vendorAllocation = db.vendorAllocation ++ [child]
  lines : db'.vendorAllocationLineItem =
    movedLines (planner.selectedLines.map AllocationSplitPlannerLine.id) ids.vendorAllocationId
      ids.childAllocationId db.vendorAllocationLineItem
  remains : db'.lineItems ids.vendorAllocationId ≠ []
  ledgers : ∃ remaining child now, remaining.id = ids.remainingLedgerId ∧
    isReplacementLedger ids.vendorAllocationId remaining = true ∧ child.id = ids.childLedgerId ∧
    isReplacementLedger ids.childAllocationId child = true ∧
    KeyUnique FinanceLedgerEntry.id (db.financeLedgerEntry ++ [remaining] ++ [child]) ∧
    db'.financeLedgerEntry = updateWhere (fun entry => entry.id == sourceLedger.id)
      (replacedLedger now ids) (db.financeLedgerEntry ++ [remaining] ++ [child])
  events : ∃ event, isCompleteSplitEvent ids event = true ∧
    KeyUnique AllocationSplitEvent.id (db.allocationSplitEvent ++ [event]) ∧
    db'.allocationSplitEvent = db.allocationSplitEvent ++ [event]

lemma createAllocation_eq_ok {db db' : SplitDb} {allocation : VendorAllocation}
    (h : db.createAllocation allocation = .ok db') :
    KeyUnique VendorAllocation.id (db.vendorAllocation ++ [allocation]) ∧
      db'.vendorAllocation = db.vendorAllocation ++ [allocation] ∧
      db'.vendorAllocationLineItem = db.vendorAllocationLineItem ∧
      db'.financeLedgerEntry = db.financeLedgerEntry ∧
      db'.allocationSplitEvent = db.allocationSplitEvent := by
  unfold SplitDb.createAllocation at h
  split at h
  · rename_i hunique
    cases h
    exact ⟨hunique, rfl, rfl, rfl, rfl⟩
  · cases h

lemma moveSelectedLines_eq_ok {db db' : SplitDb} {ids : SplitIds}
    {planner : AllocationSplitPlannerResult} (h : db.moveSelectedLines ids planner = .ok db') :
    db'.vendorAllocation = db.vendorAllocation ∧
      db'.vendorAllocationLineItem =
        movedLines (planner.selectedLines.map AllocationSplitPlannerLine.id) ids.vendorAllocationId
          ids.childAllocationId db.vendorAllocationLineItem ∧
      db'.lineItems ids.vendorAllocationId ≠ [] ∧
      db'.financeLedgerEntry = db.financeLedgerEntry ∧
      db'.allocationSplitEvent = db.allocationSplitEvent := by
  unfold SplitDb.moveSelectedLines at h
  obtain ⟨moved, hmoved, h⟩ := bind_eq_ok.mp h
  obtain ⟨-, -, h⟩ := bind_eq_ok.mp h
  obtain ⟨_, hremains, h⟩ := bind_eq_ok.mp h
  obtain rfl := pure_eq_ok.mp h
  rw [require_eq_ok] at hremains
  unfold SplitDb.moveLines at hmoved
  split at hmoved
  · cases hmoved
    exact ⟨rfl, rfl, List.ne_nil_of_length_pos (Nat.pos_of_ne_zero hremains.2), rfl, rfl⟩
  · cases hmoved

lemma createSplitSaleLedger_eq_ok {db db' : SplitDb} {ledgerId splitEventId : String}
    {allocation : VendorAllocation} {sourceLedger : FinanceLedgerEntry} {amount : ℚ}
    (h : createSplitSaleLedger db ledgerId allocation sourceLedger amount splitEventId = .ok db') :
    KeyUnique FinanceLedgerEntry.id
        (db.financeLedgerEntry ++ [splitSaleLedger ledgerId allocation sourceLedger amount]) ∧
      db'.financeLedgerEntry =
        db.financeLedgerEntry ++ [splitSaleLedger ledgerId allocation sourceLedger amount] ∧
      db'.vendorAllocation = db.vendorAllocation ∧
      db'.vendorAllocationLineItem = db.vendorAllocationLineItem ∧
      db'.allocationSplitEvent = db.allocationSplitEvent := by
  unfold createSplitSaleLedger at h
  obtain ⟨ledgers, hledgers, h⟩ := bind_eq_ok.mp h
  obtain rfl := pure_eq_ok.mp h
  obtain ⟨hunique, rfl⟩ := insertRows_eq_ok.mp hledgers
  exact ⟨hunique, rfl, rfl, rfl, rfl⟩

lemma splitSaleLedger_replaces (ledgerId : String) (allocation : VendorAllocation)
    (sourceLedger : FinanceLedgerEntry) (amount : ℚ) :
    isReplacementLedger allocation.id (splitSaleLedger ledgerId allocation sourceLedger amount) =
      true := by
  have hsale : toLowerCase (trim "sale") = "sale" := by decide
  simp [isReplacementLedger, isActiveSaleLedger, splitSaleLedger, hsale]

lemma splitEvent_complete (input : SplitAllocationForLineItemRejectInput)
    (reason : CancellationReason) (note : String) (ids : SplitIds)
    (planner : AllocationSplitPlannerResult) (sourceLedger : FinanceLedgerEntry) :
    isCompleteSplitEvent ids (splitEvent input reason note ids planner sourceLedger) = true := by
  simp [isCompleteSplitEvent, splitEvent]

lemma writeSplit_written {now : Instant} {input : SplitAllocationForLineItemRejectInput}
    {reason : CancellationReason} {note : String} {ids : SplitIds} {source : VendorAllocation}
    {planner : AllocationSplitPlannerResult} {sourceLedger : FinanceLedgerEntry} {db db' : SplitDb}
    (hid : source.id = ids.vendorAllocationId)
    (h : writeSplit now input reason note ids source planner sourceLedger db = .ok db') :
    SplitWritten ids planner sourceLedger db db' := by
  unfold writeSplit at h
  obtain ⟨snapshot, -, h⟩ := bind_eq_ok.mp h
  obtain ⟨db₁, hchild, h⟩ := bind_eq_ok.mp h
  obtain ⟨db₂, hmove, h⟩ := bind_eq_ok.mp h
  obtain ⟨db₃, hremaining, h⟩ := bind_eq_ok.mp h
  obtain ⟨db₄, hchildLedger, h⟩ := bind_eq_ok.mp h
  obtain ⟨events, hevents, h⟩ := bind_eq_ok.mp h
  obtain rfl := pure_eq_ok.mp h
  obtain ⟨hunique, ha₁, hl₁, hf₁, he₁⟩ := createAllocation_eq_ok hchild
  obtain ⟨ha₂, hl₂, hr₂, hf₂, he₂⟩ := moveSelectedLines_eq_ok hmove
  obtain ⟨-, hf₃, ha₃, hl₃, he₃⟩ := createSplitSaleLedger_eq_ok hremaining
  obtain ⟨hu₄, hf₄, ha₄, hl₄, he₄⟩ := createSplitSaleLedger_eq_ok hchildLedger
  obtain ⟨hevent, rfl⟩ := insertRows_eq_ok.mp hevents
  rw [hf₃, hf₂, hf₁] at hf₄ hu₄
  refine ⟨⟨_, rfl, hunique, ?_⟩, ?_, ?_, ⟨_, _, now, rfl, ?_, rfl, ?_, hu₄, ?_⟩,
    ⟨splitEvent input reason note ids planner sourceLedger, splitEvent_complete _ _ _ _ _ _, ?_, ?_⟩⟩
  · change db₄.vendorAllocation = _
    rw [ha₄, ha₃, ha₂, ha₁]
  · change db₄.vendorAllocationLineItem = _
    rw [hl₄, hl₃, hl₂, hl₁]
  · change db₄.vendorAllocationLineItem.filter _ ≠ []
    rw [hl₄, hl₃]
    exact hr₂
  · rw [← hid]
    exact splitSaleLedger_replaces _ _ _ _
  · exact splitSaleLedger_replaces _ (childAllocation _ _ _ _ _) _ _
  · change updateWhere _ _ db₄.financeLedgerEntry = _
    rw [hf₄]
  · rw [he₄, he₃, he₂, he₁] at hevent
    exact hevent
  · change db₄.allocationSplitEvent ++ _ = _
    rw [he₄, he₃, he₂, he₁]

/-! ## What a split checks -/

/-- The input of the planner. -/
def plannerInput (input : SplitAllocationForLineItemRejectInput) (vendorAllocationId : String) :
    AllocationSplitPlannerInput where
  vendorAllocationId := vendorAllocationId
  selectedVendorAllocationLineItemIds := input.selectedVendorAllocationLineItemIds
  selectedShopifyLineItemIds := input.selectedShopifyLineItemIds
  actorVendorId := input.actorVendorId

lemma assertPlanned_eq_ok {planner : AllocationSplitPlannerResult}
    (h : assertPlanned planner = .ok ()) : planner.decision = .canSplit := by
  unfold assertPlanned at h
  split at h
  · assumption
  · cases h
  · cases h

/-- A plan that can be carried out names only lines of the allocation. -/
lemma planned_lines {db : SplitDb} {input : AllocationSplitPlannerInput}
    {allocation : VendorAllocation}
    (h : (planLoadedAllocation db input allocation).decision = .canSplit) {id : String}
    (hid : id ∈ normalizeIds input.selectedVendorAllocationLineItemIds) :
    ∃ line ∈ db.lineItems allocation.id, line.id = id := by
  have hblockers : selectionBlockers (db.lineItems allocation.id)
      (normalizeIds input.selectedVendorAllocationLineItemIds)
      (normalizeIds input.selectedShopifyLineItemIds) = [] := by
    simp only [planLoadedAllocation] at h
    split at h
    · cases h
    · split at h
      · rename_i hnil
        exact (List.append_eq_nil_iff.mp hnil).2
      · cases h
  unfold selectionBlockers at hblockers
  have howned := (List.append_eq_nil_iff.mp (List.append_eq_nil_iff.mp hblockers).1).2
  have hline := List.flatMap_eq_nil_iff.mp howned id hid
  unfold blockerIf at hline
  split at hline
  · cases hline
  · rename_i hany
    rw [not_not, List.any_eq_true] at hany
    obtain ⟨line, hmem, heq⟩ := hany
    exact ⟨line, hmem, beq_iff_eq.mp heq⟩

lemma getActiveSourceSaleLedger_eq_ok {entries : List FinanceLedgerEntry}
    {ledger : FinanceLedgerEntry} (h : getActiveSourceSaleLedger entries = .ok ledger) :
    entries.filter isActiveSaleLedger = [ledger] := by
  unfold getActiveSourceSaleLedger at h
  split at h
  · rename_i hone
    cases h
    exact hone
  · cases h
  · cases h

lemma checkSource_eq_ok {db : SplitDb} {source : VendorAllocation}
    {planner : AllocationSplitPlannerResult} {ledger : FinanceLedgerEntry}
    (h : checkSource db source planner = .ok ledger) :
    (db.financeEntries source.id).filter isActiveSaleLedger = [ledger] := by
  unfold checkSource at h
  obtain ⟨-, -, h⟩ := bind_eq_ok.mp h
  obtain ⟨-, -, h⟩ := bind_eq_ok.mp h
  obtain ⟨-, -, h⟩ := bind_eq_ok.mp h
  obtain ⟨found, hfound, h⟩ := bind_eq_ok.mp h
  obtain ⟨-, -, h⟩ := bind_eq_ok.mp h
  obtain ⟨-, -, h⟩ := bind_eq_ok.mp h
  obtain ⟨-, -, h⟩ := bind_eq_ok.mp h
  obtain rfl := pure_eq_ok.mp h
  exact getActiveSourceSaleLedger_eq_ok hfound

/-- A new split of `source` under `ids`: what it found and what it left. -/
structure NewSplit (input : SplitAllocationForLineItemRejectInput) (ids : SplitIds)
    (source : VendorAllocation) (db : SplitDb) (first : AllocationSplitServiceResult)
    (db' : SplitDb) (sourceLedger : FinanceLedgerEntry) : Prop where
  notVoided : ∀ ledger, findRow FinanceLedgerEntry.id ids.normalSourceLedgerId
    db.financeLedgerEntry = some ledger → ledger.voidedAt = none
  planned : (planLoadedAllocation db (plannerInput input source.id) source).decision = .canSplit
  active : (db.financeEntries source.id).filter isActiveSaleLedger = [sourceLedger]
  written : SplitWritten ids (planLoadedAllocation db (plannerInput input source.id) source)
    sourceLedger db db'
  result : first =
    splitResult ids (planLoadedAllocation db (plannerInput input source.id) source) sourceLedger

lemma planAllocationSplit_eq {db : SplitDb} {input : AllocationSplitPlannerInput}
    {source : VendorAllocation} (hid : trim input.vendorAllocationId = source.id)
    (hne : source.id ≠ "") (hsource : db.allocation source.id = some source) :
    planAllocationSplitForLineItemReject db input = planLoadedAllocation db input source := by
  unfold planAllocationSplitForLineItemReject
  simp only [hid, hne, if_false, hsource]

lemma newSplit_eq_ok {now : Instant} {input : SplitAllocationForLineItemRejectInput}
    {reason : CancellationReason} {note : String} {ids : SplitIds} {source : VendorAllocation}
    {db db' : SplitDb} {first : AllocationSplitServiceResult}
    (hid : source.id = ids.vendorAllocationId) (htrim : trim source.id = source.id)
    (hne : source.id ≠ "") (hsource : db.allocation source.id = some source)
    (h : newSplit now input reason note ids source db = .ok (first, db')) :
    ∃ sourceLedger, NewSplit input ids source db first db' sourceLedger := by
  unfold newSplit at h
  obtain ⟨_, hconsistent, h⟩ := bind_eq_ok.mp h
  obtain ⟨_, -, h⟩ := bind_eq_ok.mp h
  obtain ⟨_, hplanned, h⟩ := bind_eq_ok.mp h
  obtain ⟨sourceLedger, hledger, h⟩ := bind_eq_ok.mp h
  obtain ⟨written, hwritten, h⟩ := bind_eq_ok.mp h
  obtain ⟨rfl, rfl⟩ := Prod.mk.injEq _ _ _ _ ▸ pure_eq_ok.mp h
  have hplan : planAllocationSplitForLineItemReject db (plannerInput input source.id) =
      planLoadedAllocation db (plannerInput input source.id) source :=
    planAllocationSplit_eq htrim hne hsource
  have hinput : plannerInput input ids.vendorAllocationId = plannerInput input source.id := by
    rw [hid]
  change assertPlanned
    (planAllocationSplitForLineItemReject db (plannerInput input ids.vendorAllocationId)) = _
    at hplanned
  change checkSource db source
    (planAllocationSplitForLineItemReject db (plannerInput input ids.vendorAllocationId)) = _
    at hledger
  change writeSplit now input reason note ids source
    (planAllocationSplitForLineItemReject db (plannerInput input ids.vendorAllocationId))
    sourceLedger db = _ at hwritten
  rw [hinput, hplan] at hplanned hledger hwritten
  refine ⟨sourceLedger, ?_, assertPlanned_eq_ok hplanned, checkSource_eq_ok hledger,
    writeSplit_written hid hwritten, ?_⟩
  · intro ledger hledger
    unfold assertNoInconsistentExistingSplit at hconsistent
    obtain ⟨_, -, hconsistent⟩ := bind_eq_ok.mp hconsistent
    obtain ⟨_, -, hconsistent⟩ := bind_eq_ok.mp hconsistent
    rw [require_eq_ok] at hconsistent
    change ((findRow FinanceLedgerEntry.id ids.normalSourceLedgerId
      db.financeLedgerEntry).all _) = true at hconsistent
    rw [hledger] at hconsistent
    exact Option.isNone_iff_eq_none.mp hconsistent
  · change splitResult ids
      (planAllocationSplitForLineItemReject db (plannerInput input ids.vendorAllocationId)) _ = _
    rw [hinput, hplan]

/-! ## The state after a split -/

section State

variable {input : SplitAllocationForLineItemRejectInput} {ids : SplitIds}
  {source : VendorAllocation} {db db' : SplitDb} {first : AllocationSplitServiceResult}
  {sourceLedger : FinanceLedgerEntry}

lemma mem_planned {db : SplitDb} {input : AllocationSplitPlannerInput}
    {allocation : VendorAllocation} {id : String} :
    id ∈ (planLoadedAllocation db input allocation).selectedLines.map
        AllocationSplitPlannerLine.id ↔
      ∃ line ∈ db.lineItems allocation.id,
        selectsLine (normalizeIds input.selectedVendorAllocationLineItemIds)
          (normalizeIds input.selectedShopifyLineItemIds) line = true ∧ line.id = id := by
  change id ∈ ((((db.lineItems allocation.id).filter _).map mapLine).map
    AllocationSplitPlannerLine.id) ↔ _
  rw [List.map_map, List.mem_map]
  constructor
  · rintro ⟨line, hline, rfl⟩
    obtain ⟨hmem, hselects⟩ := List.mem_filter.mp hline
    exact ⟨line, hmem, hselects, rfl⟩
  · rintro ⟨line, hmem, hselects, rfl⟩
    exact ⟨line, List.mem_filter.mpr ⟨hmem, hselects⟩, rfl⟩

lemma SplitWritten.allocation_mono {planner : AllocationSplitPlannerResult}
    (h : SplitWritten ids planner sourceLedger db db') {id : String} {allocation : VendorAllocation}
    (hid : db.allocation id = some allocation) : db'.allocation id = some allocation := by
  obtain ⟨child, -, -, hallocations⟩ := h.allocations
  unfold SplitDb.allocation findRow at hid ⊢
  rw [hallocations, List.find?_append, hid]
  rfl

lemma SplitWritten.allocation_child {planner : AllocationSplitPlannerResult}
    (h : SplitWritten ids planner sourceLedger db db') :
    (db'.allocation ids.childAllocationId).isSome = true := by
  obtain ⟨child, hid, hunique, hallocations⟩ := h.allocations
  unfold SplitDb.allocation
  rw [hallocations, ← hid, findRow_of_mem hunique (List.mem_append_right _ (List.mem_singleton_self _))]
  rfl

/-- The child is new. -/
lemma SplitWritten.child_fresh {planner : AllocationSplitPlannerResult}
    (h : SplitWritten ids planner sourceLedger db db') {allocation : VendorAllocation}
    (hmem : allocation ∈ db.vendorAllocation) : allocation.id ≠ ids.childAllocationId := by
  obtain ⟨child, hid, hunique, -⟩ := h.allocations
  intro heq
  exact (keyUnique_append.mp hunique).2.2 allocation hmem child (List.mem_singleton_self _)
    (heq.trans hid.symm)

/-- No line belongs to the child before the split. -/
lemma SplitWritten.no_child_line {planner : AllocationSplitPlannerResult}
    (h : SplitWritten ids planner sourceLedger db db') {line : VendorAllocationLineItem}
    (hmem : line ∈ db.vendorAllocationLineItem) :
    line.vendorAllocationId ≠ ids.childAllocationId := by
  obtain ⟨owner, howner, hid⟩ := db.line_allocation line hmem
  rw [← hid]
  exact h.child_fresh howner

/-- The lines of the child are the selected ones. -/
lemma SplitWritten.mem_childLines {planner : AllocationSplitPlannerResult}
    (h : SplitWritten ids planner sourceLedger db db') {line : VendorAllocationLineItem} :
    line ∈ db'.lineItems ids.childAllocationId ↔
      ∃ old ∈ db.lineItems ids.vendorAllocationId,
        old.id ∈ planner.selectedLines.map AllocationSplitPlannerLine.id ∧
        { old with vendorAllocationId := ids.childAllocationId } = line := by
  unfold SplitDb.lineItems
  rw [h.lines, List.mem_filter]
  constructor
  · rintro ⟨hmem, hchild⟩
    obtain ⟨old, hold, rfl⟩ := mem_updateWhere.mp hmem
    split at hchild
    · rename_i hmoved
      rw [if_pos hmoved]
      rw [Bool.and_eq_true, List.contains_iff_mem] at hmoved
      exact ⟨old, List.mem_filter.mpr ⟨hold, hmoved.2⟩, hmoved.1, rfl⟩
    · exact (h.no_child_line hold (beq_iff_eq.mp hchild)).elim
  · rintro ⟨old, hold, hselected, rfl⟩
    obtain ⟨hold, hsource⟩ := List.mem_filter.mp hold
    refine ⟨mem_updateWhere.mpr ⟨old, hold, ?_⟩, beq_self_eq_true _⟩
    rw [if_pos]
    rw [Bool.and_eq_true, List.contains_iff_mem]
    exact ⟨hselected, hsource⟩

/-- The lines that stay are not selected. -/
lemma SplitWritten.mem_sourceLines {planner : AllocationSplitPlannerResult}
    (h : SplitWritten ids planner sourceLedger db db') (hsource : ∃ allocation ∈ db.vendorAllocation,
      allocation.id = ids.vendorAllocationId) {line : VendorAllocationLineItem}
    (hline : line ∈ db'.lineItems ids.vendorAllocationId) :
    line.id ∉ planner.selectedLines.map AllocationSplitPlannerLine.id := by
  obtain ⟨allocation, hallocation, hid⟩ := hsource
  unfold SplitDb.lineItems at hline
  rw [h.lines, List.mem_filter] at hline
  obtain ⟨hmem, hown⟩ := hline
  obtain ⟨old, hold, rfl⟩ := mem_updateWhere.mp hmem
  split at hown
  · have hchild : ids.childAllocationId = ids.vendorAllocationId := beq_iff_eq.mp hown
    exact (h.child_fresh hallocation (hid.trans hchild.symm)).elim
  · rename_i hkept
    rw [if_neg hkept]
    intro hselected
    apply hkept
    rw [Bool.and_eq_true, List.contains_iff_mem]
    exact ⟨hselected, hown⟩

/-- The artifacts of a new split, apart from the source ledger, are complete. -/
lemma SplitWritten.findRow_event {planner : AllocationSplitPlannerResult}
    (h : SplitWritten ids planner sourceLedger db db') :
    (findRow AllocationSplitEvent.id ids.splitEventId db'.allocationSplitEvent).any
      (isCompleteSplitEvent ids) = true := by
  obtain ⟨event, hcomplete, hunique, hevents⟩ := h.events
  have hid : event.id = ids.splitEventId := by
    simp only [isCompleteSplitEvent, Bool.and_eq_true, beq_iff_eq] at hcomplete
    exact hcomplete.1.1.1.1
  rw [hevents, ← hid,
    findRow_of_mem hunique (List.mem_append_right _ (List.mem_singleton_self event))]
  exact hcomplete

/-- A row of the ledgers after the split, by its row before. -/
lemma SplitWritten.findRow_ledger {planner : AllocationSplitPlannerResult}
    (h : SplitWritten ids planner sourceLedger db db') :
    ∃ remaining child now, remaining.id = ids.remainingLedgerId ∧
      isReplacementLedger ids.vendorAllocationId remaining = true ∧ child.id = ids.childLedgerId ∧
      isReplacementLedger ids.childAllocationId child = true ∧
      KeyUnique FinanceLedgerEntry.id (db.financeLedgerEntry ++ [remaining] ++ [child]) ∧
      ∀ id, findRow FinanceLedgerEntry.id id db'.financeLedgerEntry =
        (findRow FinanceLedgerEntry.id id (db.financeLedgerEntry ++ [remaining] ++ [child])).map
          fun entry => if entry.id == sourceLedger.id then replacedLedger now ids entry
            else entry := by
  obtain ⟨remaining, child, now, hr, hr', hc, hc', hunique, hledgers⟩ := h.ledgers
  refine ⟨remaining, child, now, hr, hr', hc, hc', hunique, fun id => ?_⟩
  rw [hledgers]
  refine findRow_map (fun entry => ?_) id _
  split
  · rfl
  · rfl

lemma isReplacementLedger_voidedAt {allocationId : String} {ledger : FinanceLedgerEntry}
    (h : isReplacementLedger allocationId ledger = true) : ledger.voidedAt = none := by
  simp only [isReplacementLedger, isActiveSaleLedger, Bool.and_eq_true,
    Option.isNone_iff_eq_none] at h
  exact h.1.1.2

lemma NewSplit.sourceLedger_mem (h : NewSplit input ids source db first db' sourceLedger) :
    sourceLedger ∈ db.financeLedgerEntry := by
  have hmem : sourceLedger ∈ (db.financeEntries source.id).filter isActiveSaleLedger := by
    rw [h.active]
    exact List.mem_singleton_self _
  exact (List.mem_filter.mp (List.mem_filter.mp hmem).1).1

/-- The two replacement ledgers are found as they were written. -/
lemma NewSplit.replacements (h : NewSplit input ids source db first db' sourceLedger) :
    (findRow FinanceLedgerEntry.id ids.remainingLedgerId db'.financeLedgerEntry).any
        (isReplacementLedger ids.vendorAllocationId) = true ∧
      (findRow FinanceLedgerEntry.id ids.childLedgerId db'.financeLedgerEntry).any
        (isReplacementLedger ids.childAllocationId) = true := by
  obtain ⟨remaining, child, now, hr, hr', hc, hc', hunique, hfind⟩ := h.written.findRow_ledger
  have hsource := h.sourceLedger_mem
  have hremaining := findRow_of_mem hunique
    (List.mem_append_left _ (List.mem_append_right _ (List.mem_singleton_self remaining)))
  have hchild := findRow_of_mem hunique (List.mem_append_right _ (List.mem_singleton_self child))
  have hne : ¬ (remaining.id == sourceLedger.id) = true := by
    rw [beq_iff_eq]
    exact fun heq => (keyUnique_append.mp hunique.append_left).2.2 sourceLedger hsource remaining
      (List.mem_singleton_self _) heq.symm
  have hne' : ¬ (child.id == sourceLedger.id) = true := by
    rw [beq_iff_eq]
    exact fun heq => (keyUnique_append.mp hunique).2.2 sourceLedger
      (List.mem_append_left _ hsource) child (List.mem_singleton_self _) heq.symm
  constructor
  · rw [hfind, ← hr, hremaining, Option.map_some, Option.any_some, if_neg hne]
    exact hr'
  · rw [hfind, ← hc, hchild, Option.map_some, Option.any_some, if_neg hne']
    exact hc'

/-- The ledger of the normal id was replaced only if it was the active one. -/
lemma NewSplit.replaced_iff (h : NewSplit input ids source db first db' sourceLedger) :
    (findRow FinanceLedgerEntry.id ids.normalSourceLedgerId db'.financeLedgerEntry).any
        (isReplacedLedger ids) = true ↔ sourceLedger.id = ids.normalSourceLedgerId := by
  obtain ⟨remaining, child, now, hr, hr', hc, hc', hunique, hfind⟩ := h.written.findRow_ledger
  rw [hfind]
  constructor
  · intro hreplaced
    by_contra hne
    cases hrow : findRow FinanceLedgerEntry.id ids.normalSourceLedgerId
        (db.financeLedgerEntry ++ [remaining] ++ [child]) with
    | none =>
        rw [hrow] at hreplaced
        exact Bool.false_ne_true hreplaced
    | some entry =>
        have hkey := key_of_findRow hrow
        -- the row was not updated, and no row of that id was voided before
        have hvoid : entry.voidedAt = none := by
          have hmem := mem_of_findRow hrow
          rw [List.mem_append, List.mem_append, List.mem_singleton, List.mem_singleton] at hmem
          rcases hmem with (hmem | rfl) | rfl
          · apply h.notVoided
            rw [← hkey]
            exact findRow_of_mem hunique.append_left.append_left hmem
          · exact isReplacementLedger_voidedAt hr'
          · exact isReplacementLedger_voidedAt hc'
        have hkept : ¬ (entry.id == sourceLedger.id) = true := by
          rw [beq_iff_eq, hkey]
          exact fun heq => hne heq.symm
        rw [hrow, Option.map_some, if_neg hkept] at hreplaced
        change isReplacedLedger ids entry = true at hreplaced
        rw [isReplacedLedger, hvoid] at hreplaced
        exact Bool.false_ne_true hreplaced
  · intro hid
    have hmem : sourceLedger ∈ db.financeLedgerEntry ++ [remaining] ++ [child] :=
      List.mem_append_left _ (List.mem_append_left _ h.sourceLedger_mem)
    rw [← hid, findRow_of_mem hunique hmem, Option.map_some, if_pos (beq_self_eq_true _)]
    simp [isReplacedLedger, replacedLedger]

/-- The artifacts of a new split are complete if the replaced ledger had the normal id. -/
lemma NewSplit.complete_iff (h : NewSplit input ids source db first db' sourceLedger)
    (hid : source.id = ids.vendorAllocationId) (hsource : db.allocation source.id = some source) :
    isCompleteExistingSplit ids (loadExistingSplitArtifacts db' ids) = true ↔
      sourceLedger.id = ids.normalSourceLedgerId ∧
        ∀ id ∈ ids.selectedLineIds,
          id ∈ (db'.lineItems ids.childAllocationId).map VendorAllocationLineItem.id := by
  have hsource' : (db'.allocation ids.vendorAllocationId).isSome = true := by
    rw [← hid, h.written.allocation_mono hsource]
    rfl
  have hremains : (!(db'.lineItems ids.vendorAllocationId).isEmpty) = true := by
    rw [Bool.not_eq_true', List.isEmpty_eq_false_iff]
    exact h.written.remains
  unfold isCompleteExistingSplit loadExistingSplitArtifacts
  dsimp only
  rw [hsource', h.written.allocation_child, h.written.findRow_event, h.replacements.1,
    h.replacements.2, hremains]
  simp only [Bool.true_and, Bool.and_true, Bool.and_eq_true, h.replaced_iff, List.all_eq_true,
    List.contains_iff_mem]

end State

/-! ## The call -/

/-- A call on a source allocation, found by its trimmed id. -/
structure Called (input : SplitAllocationForLineItemRejectInput) (source : VendorAllocation)
    (db : SplitDb) : Prop where
  confirmed : input.confirmSplit = true
  id_ne : trim input.vendorAllocationId ≠ ""
  found : db.allocation (trim input.vendorAllocationId) = some source
  selected : selectedLineIdsForHash db input source ≠ []

lemma Called.source_id {input : SplitAllocationForLineItemRejectInput} {source : VendorAllocation}
    {db : SplitDb} (h : Called input source db) : source.id = trim input.vendorAllocationId :=
  key_of_findRow h.found

/-- The ids that a call computes. -/
def idsOf (sha256 : String → String) (input : SplitAllocationForLineItemRejectInput)
    (source : VendorAllocation) (db : SplitDb) : SplitIds :=
  splitIds sha256 source (selectedLineIdsForHash db input source)

/-- What `isCompleteExistingSplit` finds. -/
def Complete (ids : SplitIds) (db : SplitDb) : Prop :=
  isCompleteExistingSplit ids (loadExistingSplitArtifacts db ids) = true

lemma split_eq_ok {sha256 : String → String} {now : Instant}
    {input : SplitAllocationForLineItemRejectInput} {db db' : SplitDb}
    {result : AllocationSplitServiceResult} :
    splitAllocationForLineItemReject sha256 now input db = .ok (result, db') ↔
      ∃ reason note source, normalizeReason input.reason = .ok reason ∧
        normalizeNote input.note = .ok note ∧ Called input source db ∧
        ((Complete (idsOf sha256 input source db) db ∧ db' = db ∧
            result = existingSplitResult (idsOf sha256 input source db)
              (loadExistingSplitArtifacts db (idsOf sha256 input source db))) ∨
          (¬ Complete (idsOf sha256 input source db) db ∧
            newSplit now input reason note (idsOf sha256 input source db) source db =
              .ok (result, db'))) := by
  constructor
  · intro h
    unfold splitAllocationForLineItemReject at h
    obtain ⟨_, hconfirm, h⟩ := bind_eq_ok.mp h
    obtain ⟨_, hne, h⟩ := bind_eq_ok.mp h
    obtain ⟨reason, hreason, h⟩ := bind_eq_ok.mp h
    obtain ⟨note, hnote, h⟩ := bind_eq_ok.mp h
    obtain ⟨source, hsource, h⟩ := bind_eq_ok.mp h
    obtain ⟨_, hselected, h⟩ := bind_eq_ok.mp h
    rw [require_eq_ok] at hconfirm hne hselected
    rw [getOrThrow_eq_ok] at hsource
    refine ⟨reason, note, source, hreason, hnote, ⟨hconfirm, hne, hsource, hselected⟩, ?_⟩
    dsimp only at h
    split at h
    · rename_i hcomplete
      have heq := pure_eq_ok.mp h
      rw [Prod.mk.injEq] at heq
      exact Or.inl ⟨hcomplete, heq.2.symm, heq.1.symm⟩
    · rename_i hcomplete
      exact Or.inr ⟨hcomplete, h⟩
  · rintro ⟨reason, note, source, hreason, hnote, hcalled, h⟩
    unfold splitAllocationForLineItemReject
    refine bind_eq_ok.mpr ⟨(), require_eq_ok.mpr hcalled.confirmed, ?_⟩
    refine bind_eq_ok.mpr ⟨(), require_eq_ok.mpr hcalled.id_ne, ?_⟩
    refine bind_eq_ok.mpr ⟨reason, hreason, bind_eq_ok.mpr ⟨note, hnote, ?_⟩⟩
    refine bind_eq_ok.mpr ⟨source, getOrThrow_eq_ok.mpr hcalled.found, ?_⟩
    refine bind_eq_ok.mpr ⟨(), require_eq_ok.mpr hcalled.selected, ?_⟩
    unfold Complete idsOf at h
    dsimp only
    rcases h with ⟨hcomplete, rfl, rfl⟩ | ⟨hcomplete, hnew⟩
    · rw [if_pos hcomplete]
      rfl
    · rw [if_neg hcomplete]
      exact hnew

/-- The same ids, in any order. -/
def SameIds (l l' : List String) : Prop := ∀ id, id ∈ l ↔ id ∈ l'

/-- `second` is the split of `first`, found again. -/
structure ReplayOf (first second : AllocationSplitServiceResult) : Prop where
  idempotent : second.idempotent = true
  splitEventId : second.splitEventId = first.splitEventId
  childAllocationId : second.childAllocationId = first.childAllocationId
  sourceSaleLedgerId : second.sourceSaleLedgerId = first.sourceSaleLedgerId
  remainingSaleLedgerId : second.remainingSaleLedgerId = first.remainingSaleLedgerId
  childSaleLedgerId : second.childSaleLedgerId = first.childSaleLedgerId
  movedVendorAllocationLineItemIds : SameIds second.movedVendorAllocationLineItemIds
    first.movedVendorAllocationLineItemIds
  movedShopifyLineItemIds : SameIds second.movedShopifyLineItemIds first.movedShopifyLineItemIds

/-- The same call at `db` finds the split of `first` and changes nothing. -/
def Replays (sha256 : String → String) (now : Instant)
    (input : SplitAllocationForLineItemRejectInput) (first : AllocationSplitServiceResult)
    (db : SplitDb) : Prop :=
  ∃ second, splitAllocationForLineItemReject sha256 now input db = .ok (second, db) ∧
    ReplayOf first second

/-- A selection by allocation line id of an allocation whose active sale ledger has the id of a
normal sale ledger. -/
structure NamedByLine (input : SplitAllocationForLineItemRejectInput) (source : VendorAllocation)
    (db : SplitDb) : Prop where
  named : normalizeIds input.selectedVendorAllocationLineItemIds ≠ []
  /-- A line that a Shopify id names is named by its own id too. -/
  covers : ∀ line ∈ db.lineItems source.id,
    matchesShopifyId (normalizeIds input.selectedShopifyLineItemIds) line = true →
      line.id ∈ normalizeIds input.selectedVendorAllocationLineItemIds
  normal : ∀ ledger ∈ db.financeEntries source.id, isActiveSaleLedger ledger = true →
    ledger.id = buildSaleLedgerEntryId source.assignedVendorId source.order.sourceShopifyOrderId
      source.id

/-- The states in which a call is repeated faithfully. -/
def Replayable (sha256 : String → String) (input : SplitAllocationForLineItemRejectInput)
    (db : SplitDb) : Prop :=
  ∃ source, db.allocation (trim input.vendorAllocationId) = some source ∧
    (Complete (idsOf sha256 input source db) db ∨ NamedByLine input source db)

/-! ## Both runs -/

section Replay

variable {sha256 : String → String} {input : SplitAllocationForLineItemRejectInput}
  {ids : SplitIds} {source : VendorAllocation} {db db' : SplitDb}
  {first : AllocationSplitServiceResult} {sourceLedger : FinanceLedgerEntry}

/-- Ids of allocation lines are taken from the input. -/
lemma selectedLineIdsForHash_named
    (h : normalizeIds input.selectedVendorAllocationLineItemIds ≠ []) (db : SplitDb)
    (source : VendorAllocation) : selectedLineIdsForHash db input source =
      normalizeIds input.selectedVendorAllocationLineItemIds := by
  unfold selectedLineIdsForHash
  exact if_pos h

lemma newSplit_idempotent {now : Instant} {reason : CancellationReason} {note : String}
    {result : AllocationSplitServiceResult}
    (h : newSplit now input reason note ids source db = .ok (result, db')) :
    result.idempotent = false := by
  unfold newSplit at h
  obtain ⟨_, -, h⟩ := bind_eq_ok.mp h
  obtain ⟨_, -, h⟩ := bind_eq_ok.mp h
  obtain ⟨_, -, h⟩ := bind_eq_ok.mp h
  obtain ⟨_, -, h⟩ := bind_eq_ok.mp h
  obtain ⟨_, -, h⟩ := bind_eq_ok.mp h
  have heq := pure_eq_ok.mp h
  rw [Prod.mk.injEq] at heq
  rw [← heq.1]
  rfl

/-- A planned selection by line id moves the named lines. -/
lemma NewSplit.mem_selected_iff (h : NewSplit input ids source db first db' sourceLedger)
    (hnamed : NamedByLine input source db) {id : String} :
    id ∈ (planLoadedAllocation db (plannerInput input source.id) source).selectedLines.map
        AllocationSplitPlannerLine.id ↔
      id ∈ normalizeIds input.selectedVendorAllocationLineItemIds := by
  rw [mem_planned]
  constructor
  · rintro ⟨line, hline, hselects, rfl⟩
    rcases Bool.or_eq_true_iff.mp hselects with hown | hmatches
    · exact List.contains_iff_mem.mp hown
    · exact hnamed.covers line hline hmatches
  · intro hid
    obtain ⟨line, hline, rfl⟩ := planned_lines h.planned hid
    refine ⟨line, hline, ?_, rfl⟩
    exact Bool.or_eq_true_iff.mpr (Or.inl (List.contains_iff_mem.mpr hid))

lemma NewSplit.replayOf (h : NewSplit input ids source db first db' sourceLedger)
    (hids : ids = idsOf sha256 input source db) (hnamed : NamedByLine input source db)
    (hnormal : sourceLedger.id = ids.normalSourceLedgerId) :
    ReplayOf first (existingSplitResult ids (loadExistingSplitArtifacts db' ids)) := by
  have hsource : source.id = ids.vendorAllocationId := by
    rw [hids]
    rfl
  rw [h.result]
  refine ⟨rfl, rfl, rfl, hnormal.symm, rfl, rfl, ?_, ?_⟩
  · intro id
    have hselected : ids.selectedLineIds =
        normalizeIds input.selectedVendorAllocationLineItemIds := by
      rw [hids]
      exact selectedLineIdsForHash_named hnamed.named db source
    change id ∈ ids.selectedLineIds ↔ _
    rw [hselected]
    exact (h.mem_selected_iff hnamed).symm
  · intro shopifyId
    change shopifyId ∈ (db'.lineItems ids.childAllocationId).map _ ↔
      shopifyId ∈ ((((db.lineItems source.id).filter _).map mapLine).map
        AllocationSplitPlannerLine.shopifyLineItemId)
    rw [List.map_map, List.mem_map, List.mem_map]
    constructor
    · rintro ⟨line, hline, rfl⟩
      obtain ⟨old, hold, hselected, rfl⟩ := h.written.mem_childLines.mp hline
      rw [← hsource] at hold
      refine ⟨old, List.mem_filter.mpr ⟨hold, ?_⟩, rfl⟩
      exact Bool.or_eq_true_iff.mpr
        (Or.inl (List.contains_iff_mem.mpr ((h.mem_selected_iff hnamed).mp hselected)))
    · rintro ⟨old, hold, rfl⟩
      obtain ⟨hold, hselects⟩ := List.mem_filter.mp hold
      refine ⟨_, h.written.mem_childLines.mpr ⟨old, ?_, ?_, rfl⟩, rfl⟩
      · rw [← hsource]
        exact hold
      · exact mem_planned.mpr ⟨old, hold, hselects, rfl⟩

/-- The call after a new split that named its lines. -/
lemma NewSplit.replays (h : NewSplit input ids source db first db' sourceLedger)
    (hcalled : Called input source db) (hids : ids = idsOf sha256 input source db)
    (hnamed : NamedByLine input source db) {reason : CancellationReason} {note : String}
    (hreason : normalizeReason input.reason = .ok reason)
    (hnote : normalizeNote input.note = .ok note) (now : Instant) :
    Replays sha256 now input first db' := by
  have hselected := fun db => selectedLineIdsForHash_named hnamed.named db source
  have hsource := hcalled.found
  rw [← hcalled.source_id] at hsource
  have hcalled' : Called input source db' :=
    { confirmed := hcalled.confirmed
      id_ne := hcalled.id_ne
      found := h.written.allocation_mono hcalled.found
      selected := by
        rw [hselected]
        exact hnamed.named }
  have hids' : idsOf sha256 input source db' = ids := by
    rw [hids, idsOf, idsOf, hselected, hselected]
  have hid : source.id = ids.vendorAllocationId := by
    rw [hids]
    rfl
  have hledger : sourceLedger ∈ (db.financeEntries source.id).filter isActiveSaleLedger := by
    rw [h.active]
    exact List.mem_singleton_self _
  have hnormal : sourceLedger.id = ids.normalSourceLedgerId := by
    rw [hids]
    exact hnamed.normal sourceLedger (List.mem_filter.mp hledger).1 (List.mem_filter.mp hledger).2
  have hcomplete : Complete (idsOf sha256 input source db') db' := by
    rw [hids']
    refine (h.complete_iff hid hsource).mpr ⟨hnormal, fun id hmem => ?_⟩
    rw [hids] at hmem
    change id ∈ selectedLineIdsForHash db input source at hmem
    rw [hselected] at hmem
    obtain ⟨line, hline, hselects, rfl⟩ := mem_planned.mp ((h.mem_selected_iff hnamed).mpr hmem)
    rw [List.mem_map]
    refine ⟨_, h.written.mem_childLines.mpr ⟨line, ?_, ?_, rfl⟩, rfl⟩
    · rw [← hid]
      exact hline
    · exact (h.mem_selected_iff hnamed).mpr hmem
  refine ⟨_, split_eq_ok.mpr ⟨reason, note, source, hreason, hnote, hcalled',
    Or.inl ⟨hcomplete, rfl, rfl⟩⟩, ?_⟩
  rw [hids']
  exact h.replayOf hids hnamed hnormal

/-- A call that finds a new split again had named its lines. -/
lemma NewSplit.namedByLine (h : NewSplit input ids source db first db' sourceLedger)
    (hcalled : Called input source db) (hids : ids = idsOf sha256 input source db) {now : Instant}
    (hreplays : Replays sha256 now input first db') : NamedByLine input source db := by
  obtain ⟨second, hsecond, hreplay⟩ := hreplays
  obtain ⟨reason, note, source', -, -, hcalled', hrun⟩ := split_eq_ok.mp hsecond
  have hsource := hcalled.found
  rw [← hcalled.source_id] at hsource
  have hsame : source' = source := by
    have hfound := hcalled'.found
    rw [h.written.allocation_mono hcalled.found] at hfound
    exact (Option.some.inj hfound).symm
  subst hsame
  have hid : source'.id = ids.vendorAllocationId := by
    rw [hids]
    rfl
  rcases hrun with ⟨hcomplete, -, rfl⟩ | ⟨-, hnew⟩
  · have hmoved : ∀ id, id ∈ selectedLineIdsForHash db' input source' ↔
        id ∈ (planLoadedAllocation db (plannerInput input source'.id) source').selectedLines.map
          AllocationSplitPlannerLine.id := by
      have hlines := hreplay.movedVendorAllocationLineItemIds
      rw [h.result] at hlines
      exact hlines
    have hnamed : normalizeIds input.selectedVendorAllocationLineItemIds ≠ [] := by
      intro hnil
      -- the lines that Shopify ids select now are still at the source
      obtain ⟨id, hselected⟩ := List.exists_mem_of_ne_nil _ hcalled'.selected
      have hstill := hselected
      unfold selectedLineIdsForHash at hstill
      rw [if_neg (not_not.mpr hnil), List.mem_map] at hstill
      obtain ⟨line, hline, rfl⟩ := hstill
      have hmem := (List.mem_filter.mp hline).1
      rw [hid] at hmem
      exact h.written.mem_sourceLines ⟨source', mem_of_findRow hsource, hid⟩ hmem
        ((hmoved line.id).mp hselected)
    have hids' : idsOf sha256 input source' db' = ids := by
      rw [hids, idsOf, idsOf, selectedLineIdsForHash_named hnamed,
        selectedLineIdsForHash_named hnamed]
    rw [hids'] at hcomplete
    have hnormal := ((h.complete_iff hid hsource).mp hcomplete).1
    refine ⟨hnamed, ?_, ?_⟩
    · intro line hline hmatches
      rw [← selectedLineIdsForHash_named hnamed db' source', hmoved]
      exact mem_planned.mpr ⟨line, hline, Bool.or_eq_true_iff.mpr (Or.inr hmatches), rfl⟩
    · intro ledger hledger hactive
      have hmem : ledger ∈ (db.financeEntries source'.id).filter isActiveSaleLedger :=
        List.mem_filter.mpr ⟨hledger, hactive⟩
      rw [h.active, List.mem_singleton] at hmem
      rw [hmem, hnormal, hids]
      rfl
  · have hidempotent := hreplay.idempotent
    rw [newSplit_idempotent hnew] at hidempotent
    exact (Bool.false_ne_true hidempotent).elim

end Replay

/-- **Repeating a split.**  After a call that committed, the same call finds its split and changes
nothing exactly when the split was complete before, or the call named its lines by their own ids on
an allocation whose active sale ledger has the normal id. -/
theorem split_replay_iff {sha256 : String → String} {now now' : Instant}
    {input : SplitAllocationForLineItemRejectInput} {db db' : SplitDb}
    {first : AllocationSplitServiceResult}
    (h : splitAllocationForLineItemReject sha256 now input db = .ok (first, db')) :
    Replays sha256 now' input first db' ↔ Replayable sha256 input db := by
  obtain ⟨reason, note, source, hreason, hnote, hcalled, hrun⟩ := split_eq_ok.mp h
  rcases hrun with ⟨hcomplete, rfl, rfl⟩ | ⟨hcomplete, hnew⟩
  · refine iff_of_true ?_ ⟨source, hcalled.found, Or.inl hcomplete⟩
    refine ⟨_, split_eq_ok.mpr ⟨reason, note, source, hreason, hnote, hcalled,
      Or.inl ⟨hcomplete, rfl, rfl⟩⟩, ?_⟩
    exact ⟨rfl, rfl, rfl, rfl, rfl, rfl, fun _ => Iff.rfl, fun _ => Iff.rfl⟩
  · have hfound := hcalled.found
    have htrim : trim source.id = source.id := by
      rw [hcalled.source_id, trim_trim]
    have hne : source.id ≠ "" := by
      rw [hcalled.source_id]
      exact hcalled.id_ne
    rw [← hcalled.source_id] at hfound
    obtain ⟨sourceLedger, hsplit⟩ := newSplit_eq_ok rfl htrim hne hfound hnew
    constructor
    · intro hreplays
      exact ⟨source, hcalled.found, Or.inr (hsplit.namedByLine hcalled rfl hreplays)⟩
    · rintro ⟨source', hfound', hor⟩
      obtain rfl := Option.some.inj (hcalled.found.symm.trans hfound')
      rcases hor with hdone | hnamed
      · exact (hcomplete hdone).elim
      · exact hsplit.replays hcalled rfl hnamed hreason hnote now'

/-! ## A sample allocation -/

section Sample

/-- The SHA-256 digest of `line-2`. -/
def sampleDigest (s : String) : String :=
  if s = "line-2" then "d3c3a2a155720bf825a8254ba4cb95eb068a2095339ad36d6ee4f36a0e0dc973" else ""

def sampleOrder : ShopifyOrder where
  id := "order-1"
  sourceShopifyOrderId := "5001"
  sourceShopifyOrderNumber := "#1001"
  currency := some "TRY"
  cancelledAt := none

def sampleSource : VendorAllocation where
  id := "alloc-source"
  order := sampleOrder
  sourceShopifyOrderNumber := "#1001"
  originalVendorId := "vendor-a"
  assignedVendorId := "vendor-a"
  outboundMethodSnapshot := none
  outboundIntegrationProviderSnapshot := none
  shopifyLocationGidSnapshot := none
  allocationStatus := .active
  cancellationReason := none
  reassignmentRequired := false
  cancelRefundReviewStatus := none
  fulfillmentStatus := "Pending"
  shippingStatus := "Awaiting Shipment"
  trackingNumber := none
  carrier := none
  createdAt := 1

def sampleLine (id shopifyLineItemId sourceLineItemId : String) (amount : ℚ) :
    VendorAllocationLineItem where
  id := id
  vendorAllocationId := "alloc-source"
  shopifyLineItemId := shopifyLineItemId
  shopifyOrderLineItem := { sourceLineItemId := sourceLineItemId }
  quantity := 1
  lineAmount := some amount

def sampleLedger : FinanceLedgerEntry where
  id := "fin-vendor-a-sale-5001-alloc-source"
  vendorAllocationId := some "alloc-source"
  vendorId := "vendor-a"
  entryType := "sale"
  amount := 600
  payoutStatus := .pending
  description := none
  snapshot :=
    { commissionPercentSnapshot := some 10
      commissionVatPercentSnapshot := some 20
      deductShippingEnabledSnapshot := some false
      shippingModeSnapshot := some .disabled
      fixedShippingFeeSnapshot := none
      shippingCostSnapshot := none
      shippingVatAmountSnapshot := none
      shippingCostSourceSnapshot := none
      shippingCostProviderSnapshot := none
      shippingCostIdSnapshot := none
      financialProfileIdSnapshot := none
      settlementDelayDaysSnapshot := 21 }
  settlementStatus := .accruing
  accruedAt := some 1
  voidedAt := none
  voidReason := none
  supersededByLedgerId := none

def sampleDb : SplitDb where
  vendorAllocation := [sampleSource]
  vendorAllocationLineItem :=
    [sampleLine "line-1" "order-line-1" "101" 100, sampleLine "line-2" "order-line-2" "102" 200,
      sampleLine "line-3" "order-line-3" "103" 300]
  financeLedgerEntry := [sampleLedger]
  allocationSplitEvent := []
  allocationAssignmentHistory := []
  financeEvent := []
  evidence :=
    { fulfillments := [], shipmentExecutions := [], returnRecords := [], refundRecords := []
      economicTransfers := [], financeIntegrityAlerts := [], settlementApprovalLines := []
      payoutBatchLines := [], fullRefundTerminalFacts := [], vendorShippingConfigs := [] }
  line_allocation := by decide

/-- A selection of the second line. -/
def sampleInput (lineIds shopifyLineIds : Option (List String)) :
    SplitAllocationForLineItemRejectInput where
  vendorAllocationId := "alloc-source"
  selectedVendorAllocationLineItemIds := lineIds
  selectedShopifyLineItemIds := shopifyLineIds
  actorVendorId := none
  actorUserId := none
  reason := "OUT_OF_STOCK"
  note := none
  confirmSplit := true

lemma sampleInput_named_runs : ∃ run, splitAllocationForLineItemReject sampleDigest 10
      (sampleInput (some ["line-2"]) none) sampleDb = .ok run ∧ run.1.idempotent = false := by
  rw [← succeeds_iff]
  decide +kernel

lemma sampleInput_shopify_runs : ∃ run, splitAllocationForLineItemReject sampleDigest 10
      (sampleInput none (some ["order-line-2"])) sampleDb = .ok run ∧
    ¬ Succeeds (splitAllocationForLineItemReject sampleDigest 20
      (sampleInput none (some ["order-line-2"])) run.2) fun _ => True := by
  rw [← succeeds_iff]
  decide +kernel

/-- By its own id, the split is found again. -/
theorem split_replay_iff_sample : ∃ first db', splitAllocationForLineItemReject sampleDigest 10
      (sampleInput (some ["line-2"]) none) sampleDb = .ok (first, db') ∧
    (Replays sampleDigest 20 (sampleInput (some ["line-2"]) none) first db' ↔
      Replayable sampleDigest (sampleInput (some ["line-2"]) none) sampleDb) := by
  obtain ⟨⟨first, db'⟩, hrun, -⟩ := sampleInput_named_runs
  exact ⟨first, db', hrun, split_replay_iff hrun⟩

/-- By its Shopify id, the second call selects no line. -/
theorem split_replay_fails : ¬ ∀ (now now' : Instant)
    (input : SplitAllocationForLineItemRejectInput) (db db' : SplitDb)
    (first : AllocationSplitServiceResult),
    splitAllocationForLineItemReject sampleDigest now input db = .ok (first, db') →
      Replays sampleDigest now' input first db' := by
  intro hall
  obtain ⟨⟨first, db'⟩, hrun, hfails⟩ := sampleInput_shopify_runs
  obtain ⟨second, hsecond, -⟩ := hall 10 20 _ sampleDb db' first hrun
  exact hfails (succeeds_iff.mpr ⟨_, hsecond, trivial⟩)

end Sample

end VendorDashboard.AllocationSplit

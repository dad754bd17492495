import VendorDashboard.Framework.Reordering
import VendorDashboard.VendorIntegration.SopyoShopifyFulfillmentExecution

/-!
# What a Sopyo execution plan ships

A plan ships the quantities of the allocation (`buildSopyoShopifyExecutionLines_shipsAllocation`)
and does not depend on the order of what it is built from
(`buildSopyoShopifyExecutionLines_reordered`).  A fulfillment is taken for the one of the plan when
it has the fulfillment orders of the plan and its total for each order line
(`matchesSopyoShopifyExecutionPlan_iff`); how the total of a line is split over those fulfillment
orders is not compared.
-/

namespace VendorDashboard.VendorIntegration

open Finance (Id)
open Grouping Reordering Text

/-! ## The lines of the allocation -/

/-- A local line as it is kept under its Shopify identity. -/
structure Owns (line : LocalLine) (entry : String × LocalLine) : Prop where
  gid : canonicalOrderLineGid line.sourceLineItemId = some entry.1
  entry_eq : entry.2 = line
  safe : isSafeInteger line.quantity = true
  positive : 0 < line.quantity

lemma lookup_eq_none_iff_keys {α : Type} {l : List (String × α)} {key : String} :
    l.lookup key = none ↔ key ∉ l.map Prod.fst := by
  rw [List.lookup_eq_none_iff]
  constructor
  · intro h hmem
    obtain ⟨p, hp, rfl⟩ := List.mem_map.mp hmem
    simpa using h p hp
  · intro h p hp
    have hne : key ≠ p.1 := fun heq => h (List.mem_map.mpr ⟨p, hp, heq.symm⟩)
    simpa using hne

/-- Every line has an identity of its own. -/
lemma ownedLines_eq_some {lines : List LocalLine} {owned : List (String × LocalLine)} :
    ownedLines lines = some owned ↔
      List.Forall₂ Owns lines owned ∧ (owned.map Prod.fst).Nodup := by
  have hfold : ∀ (lines : List LocalLine) (acc owned : List (String × LocalLine)),
      (acc.map Prod.fst).Nodup → (lines.foldlM (fun owned line => do
        let gid ← canonicalOrderLineGid line.sourceLineItemId
        if isSafeInteger line.quantity ∧ 0 < line.quantity ∧ owned.lookup gid = none then
          some (owned ++ [(gid, line)])
        else none) acc = some owned ↔ ∃ tail, owned = acc ++ tail ∧
          List.Forall₂ Owns lines tail ∧ ((acc ++ tail).map Prod.fst).Nodup) := by
    intro lines
    induction lines with
    | nil =>
        intro acc owned hacc
        rw [List.foldlM_nil]
        constructor
        · intro h
          obtain rfl := Option.some.inj h
          exact ⟨[], (List.append_nil acc).symm, List.Forall₂.nil, by rwa [List.append_nil]⟩
        · rintro ⟨tail, rfl, htail, -⟩
          rw [List.forall₂_nil_left_iff.mp htail, List.append_nil]
          rfl
    | cons line lines ih =>
        intro acc owned hacc
        rw [List.foldlM_cons]
        simp only [Option.bind_eq_bind, Option.bind_eq_some_iff, Option.ite_none_right_eq_some,
          Option.some.injEq]
        constructor
        · rintro ⟨acc', ⟨gid, hgid, ⟨hsafe, hpositive, hfresh⟩, rfl⟩, hrest⟩
          rw [lookup_eq_none_iff_keys] at hfresh
          have hacc' : ((acc ++ [(gid, line)]).map Prod.fst).Nodup := by
            rw [List.map_append, List.nodup_append]
            refine ⟨hacc, List.nodup_singleton _, fun a ha b hb hab => hfresh ?_⟩
            obtain rfl : b = gid := List.mem_singleton.mp hb
            exact hab ▸ ha
          obtain ⟨tail, rfl, htail, hnodup⟩ := (ih _ _ hacc').mp hrest
          rw [List.append_assoc] at hnodup ⊢
          exact ⟨(gid, line) :: tail, rfl, .cons ⟨hgid, rfl, hsafe, hpositive⟩ htail, hnodup⟩
        · rintro ⟨tail, rfl, htail, hnodup⟩
          obtain ⟨⟨gid, line'⟩, rest, howns, hrest, rfl⟩ := List.forall₂_cons_left_iff.mp htail
          obtain rfl : line' = line := howns.entry_eq
          have hassoc : acc ++ (gid, line') :: rest = (acc ++ [(gid, line')]) ++ rest := by simp
          rw [hassoc] at hnodup ⊢
          have hacc' : ((acc ++ [(gid, line')]).map Prod.fst).Nodup := by
            rw [List.map_append] at hnodup
            exact (List.nodup_append.mp hnodup).1
          refine ⟨_, ⟨gid, howns.gid, ⟨howns.safe, howns.positive, ?_⟩, rfl⟩,
            (ih _ _ hacc').mpr ⟨rest, rfl, hrest, hnodup⟩⟩
          rw [lookup_eq_none_iff_keys]
          rw [List.map_append, List.nodup_append] at hacc'
          exact fun hmem => hacc'.2.2 _ hmem _ List.mem_cons_self rfl
  unfold ownedLines
  rw [hfold lines [] owned List.nodup_nil]
  constructor
  · rintro ⟨tail, rfl, htail, hnodup⟩
    exact ⟨htail, hnodup⟩
  · rintro ⟨htail, hnodup⟩
    exact ⟨owned, rfl, htail, hnodup⟩

/-- Lines in another order are kept in another order. -/
lemma ownedLines_perm {lines lines' : List LocalLine} (h : lines.Perm lines')
    {owned : List (String × LocalLine)} (howned : ownedLines lines = some owned) :
    ∃ owned', ownedLines lines' = some owned' ∧ owned.Perm owned' := by
  obtain ⟨hforall, hnodup⟩ := ownedLines_eq_some.mp howned
  obtain ⟨owned', hforall', hperm⟩ := List.perm_comp_forall₂ h.symm hforall
  refine ⟨owned', ownedLines_eq_some.mpr ⟨hforall', ?_⟩, hperm.symm⟩
  exact (hperm.map Prod.fst).nodup_iff.mpr hnodup

/-! ## The selection -/

/-- The line of a fulfillment order that stands for one of the allocation, planned or not. -/
def pickOf (owned : List (String × LocalLine)) (frozenLocationGid : String)
    (order : FulfillmentOrder) (line : FulfillmentOrderLineItem) :
    Option SopyoShopifyExecutionPlanLine :=
  (owned.lookup line.lineItemId).bind fun owner =>
    (order.selectable frozenLocationGid [] line).map fun quantity =>
      ⟨owner.id, order.id, line.id, line.lineItemId, quantity⟩

def picksOf (owned : List (String × LocalLine)) (frozenLocationGid : String)
    (order : FulfillmentOrder) : List SopyoShopifyExecutionPlanLine :=
  order.lineItems.filterMap (pickOf owned frozenLocationGid order)

/-- Nothing that belongs to the allocation is refused. -/
structure OrderSafe (owned : List (String × LocalLine)) (frozenLocationGid : String)
    (order : FulfillmentOrder) : Prop where
  gid : startsWith order.id "gid://shopify/FulfillmentOrder/" = true
  lines : ∀ line ∈ order.lineItems, (owned.lookup line.lineItemId).isSome →
    (order.selectable frozenLocationGid [] line).isSome

def Selection.add (sel : Selection) (pick : SopyoShopifyExecutionPlanLine) : Selection :=
  { totals := addQuantity pick.shopifyOrderLineItemGid pick.quantity sel.totals
    seenFulfillmentOrderLines := sel.seenFulfillmentOrderLines ++ [pick.fulfillmentOrderLineItemGid]
    selected := if 0 < pick.quantity then sel.selected ++ [pick] else sel.selected }

lemma selectable_seen (order : FulfillmentOrder) (loc : String) (seen : List String)
    (line : FulfillmentOrderLineItem) : order.selectable loc seen line =
      if line.id ∈ seen then none else order.selectable loc [] line := by
  unfold FulfillmentOrder.selectable
  cases line.remainingQuantity with
  | none => simp
  | some remaining =>
      cases line.totalQuantity with
      | none => simp
      | some total =>
          by_cases hseen : line.id ∈ seen <;> simp [hseen]

/-- What one line does to the selection. -/
lemma selectLine_eq_some {owned : List (String × LocalLine)} {loc : String}
    {order : FulfillmentOrder} {sel sel' : Selection} {line : FulfillmentOrderLineItem} :
    selectLine owned loc order sel line = some sel' ↔
      ((owned.lookup line.lineItemId).isSome → (order.selectable loc [] line).isSome) ∧
      (∀ pick ∈ pickOf owned loc order line,
        pick.fulfillmentOrderLineItemGid ∉ sel.seenFulfillmentOrderLines) ∧
      sel' = (pickOf owned loc order line).elim sel sel.add := by
  unfold selectLine pickOf
  cases howner : owned.lookup line.lineItemId with
  | none =>
      simp only [Option.isSome_none, Option.bind_none, Option.elim_none]
      constructor
      · intro h
        exact ⟨fun hfalse => absurd hfalse (by simp), fun _ hmem => absurd hmem (by simp),
          (Option.some.inj h).symm⟩
      · rintro ⟨-, -, rfl⟩
        rfl
  | some owner =>
      simp only [Option.bind_some]
      rw [selectable_seen]
      cases hselectable : order.selectable loc [] line with
      | none =>
          by_cases hseen : line.id ∈ sel.seenFulfillmentOrderLines <;> simp [hseen]
      | some quantity =>
          by_cases hseen : line.id ∈ sel.seenFulfillmentOrderLines
          · simp [hseen]
          · simp [hseen, Selection.add, eq_comm]

lemma foldl_add_seen (picks : List SopyoShopifyExecutionPlanLine) (sel : Selection) :
    (picks.foldl Selection.add sel).seenFulfillmentOrderLines =
      sel.seenFulfillmentOrderLines ++ picks.map (·.fulfillmentOrderLineItemGid) := by
  induction picks generalizing sel with
  | nil => simp
  | cons pick picks ih => simp [ih, Selection.add]

lemma foldl_add_selected (picks : List SopyoShopifyExecutionPlanLine) (sel : Selection) :
    (picks.foldl Selection.add sel).selected =
      sel.selected ++ picks.filter fun pick => decide (0 < pick.quantity) := by
  induction picks generalizing sel with
  | nil => simp
  | cons pick picks ih =>
      rw [List.foldl_cons, ih]
      by_cases hpositive : 0 < pick.quantity <;> simp [Selection.add, hpositive]

lemma addQuantity_eq (key : String) (quantity : ℤ) (sums : List (String × ℤ)) :
    addQuantity key quantity sums = addTo key quantity sums := by
  induction sums with
  | nil => rfl
  | cons sum sums ih =>
      obtain ⟨k, total⟩ := sum
      simp only [addQuantity, addTo, ih]

/-- The quantities of picks by their order lines. -/
def lineQuantities (picks : List SopyoShopifyExecutionPlanLine) : List (String × ℤ) :=
  picks.map fun pick => (pick.shopifyOrderLineItemGid, pick.quantity)

lemma foldl_add_totals (picks : List SopyoShopifyExecutionPlanLine) (sel : Selection) :
    (picks.foldl Selection.add sel).totals =
      (lineQuantities picks).foldl (fun sums p => addTo p.1 p.2 sums) sel.totals := by
  induction picks generalizing sel with
  | nil => rfl
  | cons pick picks ih =>
      have hadd : (sel.add pick).totals =
          addTo pick.shopifyOrderLineItemGid pick.quantity sel.totals := addQuantity_eq _ _ _
      rw [List.foldl_cons, ih, hadd]
      rfl

/-- The lines of one fulfillment order, one after the other. -/
lemma foldlM_selectLine_eq_some {owned : List (String × LocalLine)} {loc : String}
    {order : FulfillmentOrder} {lines : List FulfillmentOrderLineItem} {sel sel' : Selection}
    (hseen : sel.seenFulfillmentOrderLines.Nodup) :
    lines.foldlM (selectLine owned loc order) sel = some sel' ↔
      (∀ line ∈ lines, (owned.lookup line.lineItemId).isSome →
        (order.selectable loc [] line).isSome) ∧
      (sel.seenFulfillmentOrderLines ++ (lines.filterMap (pickOf owned loc order)).map
        (·.fulfillmentOrderLineItemGid)).Nodup ∧
      sel' = (lines.filterMap (pickOf owned loc order)).foldl Selection.add sel := by
  induction lines generalizing sel with
  | nil =>
      rw [List.foldlM_nil]
      simp only [List.not_mem_nil, false_implies, implies_true, List.filterMap_nil, List.map_nil,
        List.append_nil, List.foldl_nil, true_and]
      constructor
      · intro h
        exact ⟨hseen, (Option.some.inj h).symm⟩
      · rintro ⟨-, rfl⟩
        rfl
  | cons line lines ih =>
      rw [List.foldlM_cons]
      simp only [Option.bind_eq_bind, Option.bind_eq_some_iff, selectLine_eq_some,
        List.forall_mem_cons]
      cases hpick : pickOf owned loc order line with
      | none =>
          rw [List.filterMap_cons_none hpick]
          constructor
          · rintro ⟨mid, ⟨hsafe, -, rfl⟩, hrest⟩
            obtain ⟨hlines, hnodup, hsel⟩ := (ih hseen).mp hrest
            exact ⟨⟨hsafe, hlines⟩, hnodup, hsel⟩
          · rintro ⟨⟨hsafe, hlines⟩, hnodup, hsel⟩
            exact ⟨sel, ⟨hsafe, fun _ hmem => absurd hmem (by simp), rfl⟩,
              (ih hseen).mpr ⟨hlines, hnodup, hsel⟩⟩
      | some pick =>
          rw [List.filterMap_cons_some hpick, List.map_cons, List.foldl_cons]
          have hassoc : ∀ rest, sel.seenFulfillmentOrderLines ++
              pick.fulfillmentOrderLineItemGid :: rest =
                (sel.add pick).seenFulfillmentOrderLines ++ rest := by
            intro rest
            simp [Selection.add]
          rw [hassoc]
          have hadded : pick.fulfillmentOrderLineItemGid ∉ sel.seenFulfillmentOrderLines ↔
              (sel.add pick).seenFulfillmentOrderLines.Nodup := by
            show _ ↔ (sel.seenFulfillmentOrderLines ++ [pick.fulfillmentOrderLineItemGid]).Nodup
            rw [← List.concat_eq_append, List.nodup_concat]
            exact ⟨fun hfresh => ⟨hfresh, hseen⟩, fun h => h.1⟩
          constructor
          · rintro ⟨mid, ⟨hsafe, hfresh, rfl⟩, hrest⟩
            have hmid := hadded.mp (hfresh pick rfl)
            obtain ⟨hlines, hnodup, hsel⟩ := (ih hmid).mp hrest
            exact ⟨⟨hsafe, hlines⟩, hnodup, hsel⟩
          · rintro ⟨⟨hsafe, hlines⟩, hnodup, hsel⟩
            have hmid := (List.nodup_append.mp hnodup).1
            refine ⟨sel.add pick, ⟨hsafe, fun p hp => ?_, rfl⟩,
              (ih hmid).mpr ⟨hlines, hnodup, hsel⟩⟩
            rw [← Option.some.inj hp]
            exact hadded.mpr hmid

/-- All fulfillment orders, one after the other. -/
lemma foldlM_selectOrder_eq_some {owned : List (String × LocalLine)} {loc : String}
    {orders : List FulfillmentOrder} {sel sel' : Selection}
    (hseen : sel.seenFulfillmentOrderLines.Nodup) :
    orders.foldlM (selectOrder owned loc) sel = some sel' ↔
      (∀ order ∈ orders, OrderSafe owned loc order) ∧
      (sel.seenFulfillmentOrderLines ++ (orders.flatMap (picksOf owned loc)).map
        (·.fulfillmentOrderLineItemGid)).Nodup ∧
      sel' = (orders.flatMap (picksOf owned loc)).foldl Selection.add sel := by
  induction orders generalizing sel with
  | nil =>
      rw [List.foldlM_nil]
      simp only [List.not_mem_nil, false_implies, implies_true, List.flatMap_nil, List.map_nil,
        List.append_nil, List.foldl_nil, true_and]
      constructor
      · intro h
        exact ⟨hseen, (Option.some.inj h).symm⟩
      · rintro ⟨-, rfl⟩
        rfl
  | cons order orders ih =>
      rw [List.foldlM_cons]
      simp only [Option.bind_eq_bind, Option.bind_eq_some_iff, selectOrder,
        Option.ite_none_right_eq_some, foldlM_selectLine_eq_some hseen, List.forall_mem_cons,
        List.flatMap_cons, List.map_append, List.foldl_append]
      rw [← List.append_assoc]
      constructor
      · rintro ⟨mid, ⟨hgid, hlines, hnodup, rfl⟩, hrest⟩
        rw [← foldl_add_seen] at hnodup
        obtain ⟨horders, hnodup', hsel⟩ := (ih hnodup).mp hrest
        rw [foldl_add_seen] at hnodup'
        exact ⟨⟨⟨hgid, hlines⟩, horders⟩, hnodup', hsel⟩
      · rintro ⟨⟨⟨hgid, hlines⟩, horders⟩, hnodup, hsel⟩
        have hmid := (List.nodup_append.mp hnodup).1
        refine ⟨_, ⟨hgid, hlines, hmid, rfl⟩, ?_⟩
        rw [← foldl_add_seen] at hmid
        refine (ih hmid).mpr ⟨horders, ?_, hsel⟩
        rw [foldl_add_seen]
        exact hnodup

/-! ## What is planned -/

/-- All lines that stand for the allocation. -/
def picks (owned : List (String × LocalLine)) (frozenLocationGid : String)
    (canonical : ShopifySopyoFulfillmentPlanRead) : List SopyoShopifyExecutionPlanLine :=
  canonical.fulfillmentOrders.flatMap (picksOf owned frozenLocationGid)

/-- The lines with a quantity. -/
def planned (owned : List (String × LocalLine)) (frozenLocationGid : String)
    (canonical : ShopifySopyoFulfillmentPlanRead) : List SopyoShopifyExecutionPlanLine :=
  (picks owned frozenLocationGid canonical).filter fun pick => decide (0 < pick.quantity)

/-- The conditions under which there is a plan. -/
structure Plans (lines : List LocalLine) (others : List Id) (loc : String)
    (canonical : ShopifySopyoFulfillmentPlanRead) (owned : List (String × LocalLine)) : Prop where
  nonempty : lines ≠ []
  unshared : others = []
  owned_eq : ownedLines lines = some owned
  safe : ∀ order ∈ canonical.fulfillmentOrders, OrderSafe owned loc order
  distinct : ((picks owned loc canonical).map (·.fulfillmentOrderLineItemGid)).Nodup
  some_planned : planned owned loc canonical ≠ []
  complete : ∀ entry ∈ owned,
    totalAt entry.1 (lineQuantities (picks owned loc canonical)) = entry.2.quantity

lemma ownedLines_positive {lines : List LocalLine} {owned : List (String × LocalLine)}
    (h : ownedLines lines = some owned) : ∀ entry ∈ owned, 0 < entry.2.quantity := by
  intro entry hentry
  obtain ⟨hforall, -⟩ := ownedLines_eq_some.mp h
  obtain ⟨line, -, howns⟩ := (Reordered.of_forall₂ hforall).exists_left hentry
  rw [howns.entry_eq]
  exact howns.positive

/-- The totals agree with the local quantities when they are found. -/
lemma lookup_totals_iff {owned : List (String × LocalLine)} {items : List (String × ℤ)}
    (hpositive : ∀ entry ∈ owned, 0 < entry.2.quantity) :
    (∀ entry ∈ owned, (totals items).lookup entry.1 = some entry.2.quantity) ↔
      ∀ entry ∈ owned, totalAt entry.1 items = entry.2.quantity := by
  refine forall_congr' fun entry => forall_congr' fun hentry => ?_
  rw [lookup_eq_some_iff_mem (totals_keys_nodup items), mem_totals]
  constructor
  · exact fun h => h.2.symm
  · intro h
    refine ⟨?_, h.symm⟩
    by_contra hnone
    have hzero : totalAt entry.1 items = 0 := by
      unfold totalAt
      rw [valuesAt_eq_nil.mpr hnone, List.sum_nil]
    have hquantity := hpositive entry hentry
    omega

theorem buildSopyoShopifyExecutionLines_eq_some {le : LocaleCompare} {lines : List LocalLine}
    {others : List Id} {loc : String} {canonical : ShopifySopyoFulfillmentPlanRead}
    {result : List SopyoShopifyExecutionPlanLine} :
    buildSopyoShopifyExecutionLines le lines others loc canonical = some result ↔
      ∃ owned, Plans lines others loc canonical owned ∧
        result = sortedLines le (planned owned loc canonical) := by
  have hempty : (⟨[], [], []⟩ : Selection).seenFulfillmentOrderLines.Nodup := List.nodup_nil
  unfold buildSopyoShopifyExecutionLines
  simp only [Option.ite_none_left_eq_some, Option.bind_eq_bind, Option.bind_eq_some_iff,
    Option.ite_none_right_eq_some, Option.some.injEq, foldlM_selectOrder_eq_some hempty]
  constructor
  · rintro ⟨hinput, owned, howned, sel, ⟨hsafe, hdistinct, rfl⟩, ⟨hplanned, hcomplete⟩, rfl⟩
    obtain ⟨hnonempty, hothers⟩ := not_or.mp hinput
    rw [foldl_add_selected, List.nil_append] at hplanned ⊢
    rw [foldl_add_totals] at hcomplete
    refine ⟨owned, ⟨hnonempty, not_not.mp hothers, howned, hsafe, hdistinct, hplanned, ?_⟩, rfl⟩
    exact (lookup_totals_iff (ownedLines_positive howned)).mp hcomplete
  · rintro ⟨owned, ⟨hnonempty, hothers, howned, hsafe, hdistinct, hplanned, hcomplete⟩, rfl⟩
    refine ⟨not_or.mpr ⟨hnonempty, not_not_intro hothers⟩, owned, howned, _,
      ⟨hsafe, hdistinct, rfl⟩, ⟨?_, ?_⟩, ?_⟩
    · rw [foldl_add_selected, List.nil_append]
      exact hplanned
    · rw [foldl_add_totals]
      exact (lookup_totals_iff (ownedLines_positive howned)).mpr hcomplete
    · rw [foldl_add_selected, List.nil_append]
      rfl

/-! ## The plan ships the allocation -/

/-- What a line that stands for the allocation says. -/
structure PickedFrom (owned : List (String × LocalLine)) (loc : String)
    (canonical : ShopifySopyoFulfillmentPlanRead) (pick : SopyoShopifyExecutionPlanLine) :
    Prop where
  owner : ∃ line, owned.lookup pick.shopifyOrderLineItemGid = some line ∧
    line.id = pick.vendorAllocationLineItemId
  nonneg : 0 ≤ pick.quantity
  placed : ∃ order ∈ canonical.fulfillmentOrders, order.id = pick.fulfillmentOrderGid ∧
    order.assignedLocationId = some loc ∧ order.existingFulfillmentIds = [] ∧
    (∃ actions ∈ order.supportedActions, "CREATE_FULFILLMENT" ∈ actions) ∧
    ∃ item ∈ order.lineItems, item.id = pick.fulfillmentOrderLineItemGid ∧
      item.lineItemId = pick.shopifyOrderLineItemGid ∧
      item.remainingQuantity = some pick.quantity

lemma selectable_eq_some {order : FulfillmentOrder} {loc : String}
    {line : FulfillmentOrderLineItem} {quantity : ℤ}
    (h : order.selectable loc [] line = some quantity) :
    line.remainingQuantity = some quantity ∧ order.assignedLocationId = some loc ∧
      order.existingFulfillmentIds = [] ∧
      (∃ actions ∈ order.supportedActions, "CREATE_FULFILLMENT" ∈ actions) ∧ 0 ≤ quantity := by
  unfold FulfillmentOrder.selectable at h
  simp only [Option.bind_eq_bind, Option.bind_eq_some_iff, Option.ite_none_right_eq_some,
    Option.some.injEq] at h
  obtain ⟨remaining, hremaining, total, -, ⟨hloc, hexisting, hactions, -, -, -, hnonneg, -, -⟩,
    rfl⟩ := h
  exact ⟨hremaining, hloc, hexisting, hactions, hnonneg⟩

lemma pickedFrom_of_mem {owned : List (String × LocalLine)} {loc : String}
    {canonical : ShopifySopyoFulfillmentPlanRead} {pick : SopyoShopifyExecutionPlanLine}
    (h : pick ∈ picks owned loc canonical) : PickedFrom owned loc canonical pick := by
  obtain ⟨order, horder, hpick⟩ := List.mem_flatMap.mp h
  obtain ⟨item, hitem, hpickOf⟩ := List.mem_filterMap.mp hpick
  unfold pickOf at hpickOf
  obtain ⟨owner, howner, hquantity⟩ := Option.bind_eq_some_iff.mp hpickOf
  obtain ⟨quantity, hselectable, rfl⟩ := Option.map_eq_some_iff.mp hquantity
  obtain ⟨hremaining, hloc, hexisting, hactions, hnonneg⟩ := selectable_eq_some hselectable
  exact
    { owner := ⟨owner, howner, rfl⟩
      nonneg := hnonneg
      placed := ⟨order, horder, rfl, hloc, hexisting, hactions, item, hitem, rfl, rfl,
        hremaining⟩ }

/-- The planned quantities of the local lines. -/
def localQuantities (result : List SopyoShopifyExecutionPlanLine) : List (Id × ℤ) :=
  result.map fun line => (line.vendorAllocationLineItemId, line.quantity)

/-- The plan ships the allocation and nothing else. -/
structure ShipsAllocation (lines : List LocalLine) (loc : String)
    (canonical : ShopifySopyoFulfillmentPlanRead) (result : List SopyoShopifyExecutionPlanLine) :
    Prop where
  quantities : ∀ line ∈ lines, totalAt line.id (localQuantities result) = line.quantity
  owned : ∀ line ∈ result, ∃ owner ∈ lines, owner.id = line.vendorAllocationLineItemId ∧
    canonicalOrderLineGid owner.sourceLineItemId = some line.shopifyOrderLineItemGid
  positive : ∀ line ∈ result, 0 < line.quantity
  distinct : (result.map (·.fulfillmentOrderLineItemGid)).Nodup
  placed : ∀ line ∈ result, ∃ order ∈ canonical.fulfillmentOrders,
    order.id = line.fulfillmentOrderGid ∧ order.assignedLocationId = some loc ∧
    order.existingFulfillmentIds = [] ∧
    (∃ actions ∈ order.supportedActions, "CREATE_FULFILLMENT" ∈ actions) ∧
    ∃ item ∈ order.lineItems, item.id = line.fulfillmentOrderLineItemGid ∧
      item.lineItemId = line.shopifyOrderLineItemGid ∧
      item.remainingQuantity = some line.quantity

/-- Lines without a quantity add nothing to a total. -/
lemma totalAt_filter_positive (key : String) (l : List SopyoShopifyExecutionPlanLine)
    (hnonneg : ∀ pick ∈ l, 0 ≤ pick.quantity) :
    totalAt key (lineQuantities (l.filter fun pick => decide (0 < pick.quantity))) =
      totalAt key (lineQuantities l) := by
  induction l with
  | nil => rfl
  | cons pick l ih =>
      have hrest := ih fun p hp => hnonneg p (List.mem_cons_of_mem _ hp)
      unfold totalAt lineQuantities at hrest ⊢
      by_cases hpositive : 0 < pick.quantity
      · rw [List.filter_cons_of_pos (by simpa using hpositive), List.map_cons, List.map_cons,
          valuesAt_cons, valuesAt_cons]
        split
        · rw [List.sum_cons, List.sum_cons, hrest]
        · exact hrest
      · have hzero : pick.quantity = 0 := by
          have := hnonneg pick List.mem_cons_self
          omega
        rw [List.filter_cons_of_neg (by simpa using hpositive), List.map_cons, valuesAt_cons, hrest]
        split
        · rw [List.sum_cons, hzero, zero_add]
        · rfl

/-- A total under the local line is the total under its order line. -/
lemma totalAt_localQuantities {l : List SopyoShopifyExecutionPlanLine} {id : Id} {gid : String}
    (h : ∀ pick ∈ l, pick.vendorAllocationLineItemId = id ↔ pick.shopifyOrderLineItemGid = gid) :
    totalAt id (localQuantities l) = totalAt gid (lineQuantities l) := by
  induction l with
  | nil => rfl
  | cons pick l ih =>
      have hrest := ih fun p hp => h p (List.mem_cons_of_mem _ hp)
      have hpick := h pick List.mem_cons_self
      unfold totalAt localQuantities lineQuantities at hrest ⊢
      rw [List.map_cons, List.map_cons, valuesAt_cons, valuesAt_cons]
      by_cases hid : pick.vendorAllocationLineItemId = id
      · rw [if_pos hid, if_pos (hpick.mp hid), List.sum_cons, List.sum_cons, hrest]
      · rw [if_neg hid, if_neg fun hgid => hid (hpick.mpr hgid), hrest]

theorem buildSopyoShopifyExecutionLines_shipsAllocation {le : LocaleCompare}
    {lines : List LocalLine} {others : List Id} {loc : String}
    {canonical : ShopifySopyoFulfillmentPlanRead} {result : List SopyoShopifyExecutionPlanLine}
    (hids : (lines.map (·.id)).Nodup)
    (h : buildSopyoShopifyExecutionLines le lines others loc canonical = some result) :
    ShipsAllocation lines loc canonical result := by
  obtain ⟨owned, hplans, rfl⟩ := buildSopyoShopifyExecutionLines_eq_some.mp h
  obtain ⟨hforall, hkeys⟩ := ownedLines_eq_some.mp hplans.owned_eq
  have hperm : (sortedLines le (planned owned loc canonical)).Perm (planned owned loc canonical) :=
    List.perm_insertionSort _ _
  have hmem : ∀ {pick}, pick ∈ sortedLines le (planned owned loc canonical) →
      pick ∈ picks owned loc canonical ∧ 0 < pick.quantity := by
    intro pick hpick
    have hfilter := List.mem_filter.mp (hperm.mem_iff.mp hpick)
    exact ⟨hfilter.1, of_decide_eq_true hfilter.2⟩
  have howner : ∀ {gid owner}, owned.lookup gid = some owner →
      owner ∈ lines ∧ canonicalOrderLineGid owner.sourceLineItemId = some gid := by
    intro gid owner hlookup
    rw [lookup_eq_some_iff_mem hkeys] at hlookup
    obtain ⟨line, hline, howns⟩ := (Reordered.of_forall₂ hforall).exists_left hlookup
    obtain rfl : owner = line := howns.entry_eq
    exact ⟨hline, howns.gid⟩
  refine ⟨?_, ?_, fun pick hpick => (hmem hpick).2, ?_, ?_⟩
  · intro line hline
    obtain ⟨entry, hentry, howns⟩ := (Reordered.of_forall₂ hforall).exists_right hline
    have hsame : ∀ pick ∈ planned owned loc canonical,
        pick.vendorAllocationLineItemId = line.id ↔ pick.shopifyOrderLineItemGid = entry.1 := by
      intro pick hpick
      obtain ⟨owner, hlookup, hid⟩ := (pickedFrom_of_mem (List.mem_of_mem_filter hpick)).owner
      obtain ⟨howner, hgid⟩ := howner hlookup
      constructor
      · intro heq
        have hsame : owner = line :=
          List.inj_on_of_nodup_map hids howner hline (hid.trans heq)
        rw [hsame, howns.gid] at hgid
        exact (Option.some.inj hgid).symm
      · intro heq
        rw [heq, lookup_eq_some_iff_mem hkeys] at hlookup
        have hentryEq := List.inj_on_of_nodup_map hkeys hlookup hentry rfl
        rw [← hid, ← howns.entry_eq, ← hentryEq]
    have hsorted : totalAt line.id (localQuantities
        (sortedLines le (planned owned loc canonical))) =
        totalAt line.id (localQuantities (planned owned loc canonical)) :=
      totalAt_perm (hperm.map _) _
    have htotal : totalAt entry.1 (lineQuantities (planned owned loc canonical)) =
        totalAt entry.1 (lineQuantities (picks owned loc canonical)) :=
      totalAt_filter_positive _ _ fun pick hpick => (pickedFrom_of_mem hpick).nonneg
    rw [hsorted, totalAt_localQuantities hsame, htotal, hplans.complete entry hentry,
      howns.entry_eq]
  · intro pick hpick
    obtain ⟨owner, hlookup, hid⟩ := (pickedFrom_of_mem (hmem hpick).1).owner
    exact ⟨owner, (howner hlookup).1, hid, (howner hlookup).2⟩
  · rw [(hperm.map _).nodup_iff]
    exact hplans.distinct.sublist ((List.filter_sublist).map _)
  · exact fun pick hpick => (pickedFrom_of_mem (hmem hpick).1).placed

/-! ## Another order -/

/-- `localeCompare` orders all strings. -/
structure IsCollation (le : LocaleCompare) : Prop where
  total : ∀ a b, le a b = true ∨ le b a = true
  trans : ∀ a b c, le a b = true → le b c = true → le a c = true

/-- `localeCompare` tells some strings apart. -/
def Separates (le : LocaleCompare) (ids : List String) : Prop :=
  ∀ a ∈ ids, ∀ b ∈ ids, le a b = true → le b a = true → a = b

/-- The lines of all fulfillment orders. -/
def ShopifySopyoFulfillmentPlanRead.lineItems (canonical : ShopifySopyoFulfillmentPlanRead) :
    List FulfillmentOrderLineItem :=
  canonical.fulfillmentOrders.flatMap (·.lineItems)

/-- A fulfillment order with its lines in another order. -/
structure SameOrder (order order' : FulfillmentOrder) : Prop where
  fields : order' = { order with lineItems := order'.lineItems }
  lineItems : order.lineItems.Perm order'.lineItems

section Reordering

variable {le : LocaleCompare} {lines lines' : List LocalLine} {others : List Id} {loc : String}
  {canonical canonical' : ShopifySopyoFulfillmentPlanRead}
  {owned owned' : List (String × LocalLine)}

lemma pickOf_eq {order order' : FulfillmentOrder} (horder : SameOrder order order')
    (hlookup : ∀ key, owned.lookup key = owned'.lookup key) (line : FulfillmentOrderLineItem) :
    pickOf owned loc order line = pickOf owned' loc order' line := by
  rw [horder.fields]
  unfold pickOf
  rw [hlookup]
  rfl

lemma picks_perm (horders : Reordered SameOrder canonical.fulfillmentOrders
      canonical'.fulfillmentOrders)
    (hlookup : ∀ key, owned.lookup key = owned'.lookup key) :
    (picks owned loc canonical).Perm (picks owned' loc canonical') := by
  refine horders.flatMap fun order order' horder => ?_
  have hpick : pickOf owned loc order = pickOf owned' loc order' :=
    funext fun line => pickOf_eq horder hlookup line
  unfold picksOf
  rw [hpick]
  exact horder.lineItems.filterMap _

lemma OrderSafe.reordered {order order' : FulfillmentOrder} (horder : SameOrder order order')
    (hlookup : ∀ key, owned.lookup key = owned'.lookup key) (h : OrderSafe owned loc order) :
    OrderSafe owned' loc order' := by
  obtain ⟨hfields, hperm⟩ := horder
  rw [hfields]
  refine ⟨h.gid, fun line hline howned => ?_⟩
  exact h.lines line (hperm.mem_iff.mpr hline) (by rw [hlookup]; exact howned)

/-- The conditions do not depend on the order. -/
lemma Plans.reordered (hlines : lines.Perm lines')
    (horders : Reordered SameOrder canonical.fulfillmentOrders canonical'.fulfillmentOrders)
    (h : Plans lines others loc canonical owned) :
    ∃ owned', Plans lines' others loc canonical' owned' ∧
      (picks owned loc canonical).Perm (picks owned' loc canonical') := by
  obtain ⟨owned', howned', hperm⟩ := ownedLines_perm hlines h.owned_eq
  have hkeys := (ownedLines_eq_some.mp h.owned_eq).2
  have hlookup := lookup_eq_of_perm hperm hkeys
  have hpicks := @picks_perm loc _ _ _ _ horders hlookup
  refine ⟨owned', ?_, hpicks⟩
  exact
    { nonempty := fun hnil => h.nonempty (List.perm_nil.mp (hnil ▸ hlines))
      unshared := h.unshared
      owned_eq := howned'
      safe := by
        intro order' horder'
        obtain ⟨order, horder, hsame⟩ := horders.exists_left horder'
        exact (h.safe order horder).reordered hsame hlookup
      distinct := (hpicks.map _).nodup_iff.mp h.distinct
      some_planned := by
        intro hnil
        have hfilter := hpicks.filter fun pick => decide (0 < pick.quantity)
        refine h.some_planned (List.perm_nil.mp (hfilter.trans ?_))
        exact List.Perm.of_eq hnil
      complete := by
        intro entry hentry
        have htotal : totalAt entry.1 (lineQuantities (picks owned loc canonical)) =
            totalAt entry.1 (lineQuantities (picks owned' loc canonical')) :=
          totalAt_perm (hpicks.map _) entry.1
        rw [← htotal]
        exact h.complete entry (hperm.mem_iff.mpr hentry) }

lemma mem_lineItems_of_picks {pick : SopyoShopifyExecutionPlanLine}
    (h : pick ∈ picks owned loc canonical) :
    pick.fulfillmentOrderLineItemGid ∈ canonical.lineItems.map (·.id) ∧
      pick.shopifyOrderLineItemGid ∈ canonical.lineItems.map (·.lineItemId) := by
  obtain ⟨order, horder, -, -, -, -, item, hitem, hid, hline, -⟩ := (pickedFrom_of_mem h).placed
  have hmem : item ∈ canonical.lineItems := List.mem_flatMap.mpr ⟨order, horder, hitem⟩
  exact ⟨List.mem_map.mpr ⟨item, hmem, hid⟩, List.mem_map.mpr ⟨item, hmem, hline⟩⟩

/-- The plan is the same list whatever the order of what it is built from. -/
theorem buildSopyoShopifyExecutionLines_reordered (hle : IsCollation le)
    (hids : Separates le (canonical.lineItems.map (·.id))) (hlines : lines.Perm lines')
    (horders : Reordered SameOrder canonical.fulfillmentOrders canonical'.fulfillmentOrders)
    {result : List SopyoShopifyExecutionPlanLine}
    (h : buildSopyoShopifyExecutionLines le lines others loc canonical = some result) :
    buildSopyoShopifyExecutionLines le lines' others loc canonical' = some result := by
  obtain ⟨owned, hplans, rfl⟩ := buildSopyoShopifyExecutionLines_eq_some.mp h
  obtain ⟨owned', hplans', hpicks⟩ := hplans.reordered hlines horders
  rw [buildSopyoShopifyExecutionLines_eq_some]
  refine ⟨owned', hplans', ?_⟩
  refine insertionSort_eq_of_perm
    (fun a b => hle.total a.fulfillmentOrderLineItemGid b.fulfillmentOrderLineItemGid)
    (fun a b c => hle.trans a.fulfillmentOrderLineItemGid b.fulfillmentOrderLineItemGid
      c.fulfillmentOrderLineItemGid) (hpicks.filter _) ?_
  intro a ha b hb hab hba
  have ha' := List.mem_of_mem_filter ha
  have hb' := List.mem_of_mem_filter hb
  have hgid := hids _ (mem_lineItems_of_picks ha').1 _ (mem_lineItems_of_picks hb').1 hab hba
  exact List.inj_on_of_nodup_map hplans.distinct ha' hb' hgid

end Reordering

/-! ## The submission -/

/-- What a fulfillment or a plan says of one fulfillment order line. -/
def itemOf (line : SopyoShopifyExecutionPlanLine) : String × String × ℤ :=
  (line.fulfillmentOrderGid, line.fulfillmentOrderLineItemGid, line.quantity)

/-- What a submission asks for, line by line. -/
def ShopifySopyoFulfillmentCreateInput.items (input : ShopifySopyoFulfillmentCreateInput) :
    List (String × String × ℤ) :=
  input.lineItemsByFulfillmentOrder.flatMap fun g => g.2.map fun item => (g.1, item)

/-- The lines of a plan are asked for, by fulfillment orders. -/
lemma createInput_items_perm (le : LocaleCompare) (plan : SopyoShopifyExecutionPlan)
    (carrier trackingNumber : String) :
    (createInput le plan carrier trackingNumber).items.Perm (plan.lines.map itemOf) := by
  have hsorted := (List.perm_insertionSort (fun a b : String × List (String × ℤ) =>
    le a.1 b.1 = true) (groups ((sortedLines le plan.lines).map itemOf))).flatMap_right
      fun g => g.2.map fun item => (g.1, item)
  have hlines : (sortedLines le plan.lines).Perm plan.lines := List.perm_insertionSort _ _
  exact hsorted.trans ((groups_flatten_perm _).trans (hlines.map itemOf))

/-- A fulfillment in Shopify, line by line. -/
structure FulfilledLine where
  fulfillmentOrderGid : String
  fulfillmentOrderLineItemGid : String
  shopifyOrderLineItemGid : String
  quantity : ℤ
  deriving DecidableEq

structure ShopifyFulfillment where
  orderGid : String
  locationGid : String
  status : String
  tracking : List FulfillmentTracking
  lines : List FulfilledLine

/-- The quantities of a fulfillment by order lines. -/
def ShopifyFulfillment.quantities (f : ShopifyFulfillment) : List (String × ℤ) :=
  f.lines.map fun line => (line.shopifyOrderLineItemGid, line.quantity)

def evidenceQuantities (e : ShopifySopyoFulfillmentEvidence) : List (String × ℤ) :=
  e.lines.map fun line => (line.shopifyOrderLineItemGid, line.quantity)

/-- A read names each fulfillment order of a fulfillment once, and says how much of each order line
was fulfilled. -/
structure ReadAs (f : ShopifyFulfillment) (e : ShopifySopyoFulfillmentEvidence) : Prop where
  orderGid : e.orderGid = f.orderGid
  locationGid : e.locationGid = f.locationGid
  status : e.status = f.status
  tracking : e.tracking = f.tracking
  once : e.fulfillmentOrderGids.Nodup
  fulfillmentOrders : ∀ gid, gid ∈ e.fulfillmentOrderGids ↔
    gid ∈ f.lines.map (·.fulfillmentOrderGid)
  positive : ∀ line ∈ e.lines, 0 < line.quantity
  totals : ∀ gid, totalAt gid (evidenceQuantities e) = totalAt gid f.quantities

/-- Shopify fulfils exactly what a submission of the plan asks for, at its location and with one
tracking entry. -/
structure BuiltFrom (input : ShopifySopyoFulfillmentCreateInput) (plan : SopyoShopifyExecutionPlan)
    (f : ShopifyFulfillment) : Prop where
  orderGid : f.orderGid = input.orderGid
  locationGid : f.locationGid = plan.shopifyLocationGid
  status : f.status ∉ ["CANCELLED", "ERROR", "FAILURE"]
  tracking : f.tracking = [⟨some input.company, some input.trackingNumber⟩]
  items : (f.lines.map fun line =>
    (line.fulfillmentOrderGid, line.fulfillmentOrderLineItemGid, line.quantity)).Perm input.items
  /-- A fulfillment order line is of the order line that the plan says. -/
  orderLines : ∀ line ∈ f.lines, ∀ planLine ∈ plan.lines,
    line.fulfillmentOrderLineItemGid = planLine.fulfillmentOrderLineItemGid →
      line.shopifyOrderLineItemGid = planLine.shopifyOrderLineItemGid

/-- What is compared of a fulfillment. -/
structure Fulfils (f : ShopifyFulfillment) (plan : SopyoShopifyExecutionPlan)
    (carrier trackingNumber : String) : Prop where
  orderGid : f.orderGid = plan.shopifyOrderGid
  locationGid : f.locationGid = plan.shopifyLocationGid
  status : f.status ∉ ["CANCELLED", "ERROR", "FAILURE"]
  tracking : f.tracking = [⟨some carrier, some trackingNumber⟩]
  fulfillmentOrders : ∀ gid, gid ∈ f.lines.map (·.fulfillmentOrderGid) ↔
    gid ∈ plan.lines.map (·.fulfillmentOrderGid)
  totals : ∀ gid, totalAt gid f.quantities = totalAt gid (lineQuantities plan.lines)

/-- What is asked for is what is compared. -/
theorem BuiltFrom.fulfils {le : LocaleCompare} {plan : SopyoShopifyExecutionPlan}
    {carrier trackingNumber : String} {f : ShopifyFulfillment}
    (hdistinct : (plan.lines.map (·.fulfillmentOrderLineItemGid)).Nodup)
    (h : BuiltFrom (createInput le plan carrier trackingNumber) plan f) :
    Fulfils f plan carrier trackingNumber := by
  have hitems := h.items.trans (createInput_items_perm le plan carrier trackingNumber)
  -- the order line of a fulfillment order line, as the plan has it
  obtain ⟨gidOf, hgidOf⟩ : ∃ gidOf : String → String, ∀ line ∈ plan.lines,
      gidOf line.fulfillmentOrderLineItemGid = line.shopifyOrderLineItemGid := by
    refine ⟨fun id => ((plan.lines.map fun line =>
      (line.fulfillmentOrderLineItemGid, line.shopifyOrderLineItemGid)).lookup id).getD "", ?_⟩
    intro line hline
    have hkeys : ((plan.lines.map fun line => (line.fulfillmentOrderLineItemGid,
        line.shopifyOrderLineItemGid)).map Prod.fst).Nodup := by
      rw [List.map_map]
      exact hdistinct
    have hfound := (lookup_eq_some_iff_mem hkeys).mpr (List.mem_map.mpr ⟨line, hline, rfl⟩)
    simp only [hfound, Option.getD_some]
  have hline : ∀ line ∈ f.lines,
      line.shopifyOrderLineItemGid = gidOf line.fulfillmentOrderLineItemGid := by
    intro line hline
    have hmem := hitems.mem_iff.mp (List.mem_map.mpr ⟨line, hline, rfl⟩)
    obtain ⟨planLine, hplanLine, heq⟩ := List.mem_map.mp hmem
    have hid : planLine.fulfillmentOrderLineItemGid = line.fulfillmentOrderLineItemGid :=
      (Prod.mk.inj (Prod.mk.inj heq).2).1
    rw [h.orderLines line hline planLine hplanLine hid.symm, ← hgidOf planLine hplanLine, hid]
  have hquantities : f.quantities.Perm (lineQuantities plan.lines) := by
    have hread := hitems.map fun item : String × String × ℤ => (gidOf item.2.1, item.2.2)
    rw [List.map_map, List.map_map] at hread
    have hleft : f.quantities = f.lines.map
        ((fun item : String × String × ℤ => (gidOf item.2.1, item.2.2)) ∘ fun line =>
          (line.fulfillmentOrderGid, line.fulfillmentOrderLineItemGid, line.quantity)) :=
      List.map_congr_left fun line hmem => by rw [hline line hmem]; rfl
    have hright : lineQuantities plan.lines = plan.lines.map
        ((fun item : String × String × ℤ => (gidOf item.2.1, item.2.2)) ∘ itemOf) :=
      List.map_congr_left fun line hmem => by rw [← hgidOf line hmem]; rfl
    rw [hleft, hright]
    exact hread
  have horders : (f.lines.map (·.fulfillmentOrderGid)).Perm
      (plan.lines.map (·.fulfillmentOrderGid)) := by
    have hread := hitems.map Prod.fst
    rwa [List.map_map, List.map_map] at hread
  exact
    { orderGid := h.orderGid
      locationGid := h.locationGid
      status := h.status
      tracking := h.tracking
      fulfillmentOrders := fun gid => horders.mem_iff
      totals := fun gid => totalAt_perm hquantities gid }

/-! ## The comparison -/

lemma foldl_addQuantity (items : List (String × ℤ)) :
    items.foldl (fun sums line => addQuantity line.1 line.2 sums) [] = totals items := by
  simp only [addQuantity_eq]
  rfl

/-- Quantities by order lines are compared as totals. -/
lemma quantities_eq_iff {le : LocaleCompare} (hle : IsCollation le) {l m : List (String × ℤ)}
    (hkeys : Separates le (m.map Prod.fst)) :
    quantities le l = quantities le m ↔ (∀ k, k ∈ l.map Prod.fst ↔ k ∈ m.map Prod.fst) ∧
      ∀ k, totalAt k l = totalAt k m := by
  rw [← totals_perm_iff, quantities, quantities, foldl_addQuantity, foldl_addQuantity]
  constructor
  · intro h
    have hl := List.perm_insertionSort (fun a b : String × ℤ => le a.1 b.1 = true) (totals l)
    have hm := List.perm_insertionSort (fun a b : String × ℤ => le a.1 b.1 = true) (totals m)
    exact hl.symm.trans (h ▸ hm)
  · intro h
    refine insertionSort_eq_of_perm (fun a b => hle.total a.1 b.1)
      (fun a b c => hle.trans a.1 b.1 c.1) h ?_
    have hmem : ∀ a ∈ totals l, a.1 ∈ m.map Prod.fst := by
      intro a ha
      exact (mem_totals.mp (h.mem_iff.mp ha)).1
    intro a ha b hb hab hba
    exact List.inj_on_of_nodup_map (totals_keys_nodup l) ha hb
      (hkeys _ (hmem a ha) _ (hmem b hb) hab hba)

lemma mem_distinctGids {gids : List String} {gid : String} :
    gid ∈ distinctGids gids ↔ gid ∈ gids := by
  rw [distinctGids, List.mem_insertionSort, List.mem_dedup]

lemma length_distinctGids_eq_iff {gids : List String} :
    (distinctGids gids).length = gids.length ↔ gids.Nodup := by
  rw [distinctGids, List.length_insertionSort]
  constructor
  · intro h
    rw [← (List.dedup_sublist gids).eq_of_length h]
    exact List.nodup_dedup gids
  · intro h
    rw [h.dedup]

lemma distinctGids_eq_iff {gids gids' : List String} :
    distinctGids gids = distinctGids gids' ↔ ∀ gid, gid ∈ gids ↔ gid ∈ gids' := by
  constructor
  · intro h gid
    rw [← mem_distinctGids, h, mem_distinctGids]
  · intro h
    refine insertionSort_eq_of_perm (r := fun a b : String => a ≤ b) String.le_total
      (fun a b c hab hbc => String.le_trans hab hbc) ?_
      fun a _ b _ hab hba => String.le_antisymm hab hba
    rw [List.perm_ext_iff_of_nodup (List.nodup_dedup _) (List.nodup_dedup _)]
    intro gid
    rw [List.mem_dedup, List.mem_dedup, h gid]

/-- A key has a total exactly when it occurs. -/
lemma mem_keys_iff_totalAt_ne_zero {l : List (String × ℤ)} (hpositive : ∀ p ∈ l, 0 < p.2)
    (key : String) : key ∈ l.map Prod.fst ↔ totalAt key l ≠ 0 := by
  have hvalues : ∀ x ∈ valuesAt key l, 0 < x := fun x hx => hpositive _ (mem_valuesAt.mp hx)
  constructor
  · intro hmem
    have hne : valuesAt key l ≠ [] := fun hnil => valuesAt_eq_nil.mp hnil hmem
    exact (List.sum_pos _ hvalues hne).ne'
  · intro hne
    by_contra hnone
    refine hne ?_
    unfold totalAt
    rw [valuesAt_eq_nil.mpr hnone, List.sum_nil]

theorem matchesSopyoShopifyExecutionPlan_iff {le : LocaleCompare} (hle : IsCollation le)
    {plan : SopyoShopifyExecutionPlan} {f : ShopifyFulfillment}
    {e : ShopifySopyoFulfillmentEvidence} {carrier trackingNumber : String} (hread : ReadAs f e)
    (hkeys : Separates le (plan.lines.map (·.shopifyOrderLineItemGid)))
    (hpositive : ∀ line ∈ plan.lines, 0 < line.quantity) :
    matchesSopyoShopifyExecutionPlan le e plan carrier trackingNumber = true ↔
      Fulfils f plan carrier trackingNumber := by
  have hkeys' : Separates le ((lineQuantities plan.lines).map Prod.fst) := by
    rw [lineQuantities, List.map_map]
    exact hkeys
  have hsums := quantities_eq_iff (l := evidenceQuantities e) hle hkeys'
  have heKeys := mem_keys_iff_totalAt_ne_zero (l := evidenceQuantities e) fun p hp => by
    obtain ⟨line, hline, rfl⟩ := List.mem_map.mp hp
    exact hread.positive line hline
  have hpKeys := mem_keys_iff_totalAt_ne_zero (l := lineQuantities plan.lines) fun p hp => by
    obtain ⟨line, hline, rfl⟩ := List.mem_map.mp hp
    exact hpositive line hline
  unfold matchesSopyoShopifyExecutionPlan
  simp only [Bool.and_eq_true, decide_eq_true_eq, length_distinctGids_eq_iff, distinctGids_eq_iff]
  constructor
  · rintro ⟨⟨⟨⟨⟨⟨horder, hlocation⟩, hstatus⟩, -⟩, horders⟩, htracking⟩, hquantities⟩
    obtain ⟨-, htotals⟩ := hsums.mp hquantities
    exact
      { orderGid := hread.orderGid ▸ horder
        locationGid := hread.locationGid ▸ hlocation
        status := hread.status ▸ hstatus
        tracking := hread.tracking ▸ htracking
        fulfillmentOrders := fun gid => (hread.fulfillmentOrders gid).symm.trans (horders gid)
        totals := fun gid => (hread.totals gid).symm.trans (htotals gid) }
  · intro h
    have htotals : ∀ gid, totalAt gid (evidenceQuantities e) =
        totalAt gid (lineQuantities plan.lines) := fun gid =>
      (hread.totals gid).trans (h.totals gid)
    refine ⟨⟨⟨⟨⟨⟨?_, ?_⟩, ?_⟩, hread.once⟩, ?_⟩, ?_⟩, ?_⟩
    · exact hread.orderGid.trans h.orderGid
    · exact hread.locationGid.trans h.locationGid
    · rw [hread.status]
      exact h.status
    · exact fun gid => (hread.fulfillmentOrders gid).trans (h.fulfillmentOrders gid)
    · exact hread.tracking.trans h.tracking
    · refine hsums.mpr ⟨fun gid => ?_, htotals⟩
      rw [heKeys, hpKeys, htotals]

/-! ## Exactness -/

/-- A plan ships the allocation, whatever the order of what it is built from, and a fulfillment is
taken for the one of the stored plan when it is the submitted one, or has the fulfillment orders of
the plan and its total for each order line. -/
theorem sopyoExecutionPlan_exact {le : LocaleCompare} (hle : IsCollation le)
    {lines : List LocalLine} {others : List Id} {loc : String}
    {canonical : ShopifySopyoFulfillmentPlanRead} {result : List SopyoShopifyExecutionPlanLine}
    (hids : (lines.map (·.id)).Nodup) (hitems : Separates le (canonical.lineItems.map (·.id)))
    (horderLines : Separates le (canonical.lineItems.map (·.lineItemId)))
    (h : buildSopyoShopifyExecutionLines le lines others loc canonical = some result) :
    ShipsAllocation lines loc canonical result ∧
    (∀ lines' canonical', lines.Perm lines' → Reordered SameOrder canonical.fulfillmentOrders
        canonical'.fulfillmentOrders →
      buildSopyoShopifyExecutionLines le lines' others loc canonical' = some result) ∧
    ∀ plan : SopyoShopifyExecutionPlan, plan.lines.Perm result →
      ∀ carrier trackingNumber f e, ReadAs f e →
        (BuiltFrom (createInput le plan carrier trackingNumber) plan f →
          matchesSopyoShopifyExecutionPlan le e plan carrier trackingNumber = true) ∧
        (matchesSopyoShopifyExecutionPlan le e plan carrier trackingNumber = true ↔
          Fulfils f plan carrier trackingNumber) := by
  have hships := buildSopyoShopifyExecutionLines_shipsAllocation hids h
  refine ⟨hships, fun lines' canonical' hlines horders =>
    buildSopyoShopifyExecutionLines_reordered hle hitems hlines horders h, ?_⟩
  intro plan hplan carrier trackingNumber f e hread
  have hkeys : Separates le (plan.lines.map (·.shopifyOrderLineItemGid)) := by
    have hmem : ∀ gid ∈ plan.lines.map (·.shopifyOrderLineItemGid),
        gid ∈ canonical.lineItems.map (·.lineItemId) := by
      intro gid hgid
      obtain ⟨line, hline, rfl⟩ := List.mem_map.mp hgid
      obtain ⟨order, horder, -, -, -, -, item, hitem, -, hitemLine, -⟩ :=
        hships.placed line (hplan.mem_iff.mp hline)
      exact List.mem_map.mpr ⟨item, List.mem_flatMap.mpr ⟨order, horder, hitem⟩, hitemLine⟩
    exact fun a ha b hb => horderLines a (hmem a ha) b (hmem b hb)
  have hmatches := @matchesSopyoShopifyExecutionPlan_iff _ hle _ _ _ carrier trackingNumber
    hread hkeys fun line hline => hships.positive line (hplan.mem_iff.mp hline)
  refine ⟨fun hbuilt => ?_, hmatches⟩
  exact hmatches.mpr (hbuilt.fulfils ((hplan.map _).nodup_iff.mpr hships.distinct))

/-! ## One line in two fulfillment orders -/

def splitFulfillmentOrder (id : String) (quantity : ℤ) : FulfillmentOrder :=
  ⟨"gid://shopify/FulfillmentOrder/" ++ id, some ["CREATE_FULFILLMENT"], some "location",
    [⟨"gid://shopify/FulfillmentOrderLineItem/" ++ id, "gid://shopify/LineItem/7", some quantity,
      some quantity⟩], []⟩

def splitCanonical : ShopifySopyoFulfillmentPlanRead :=
  ⟨"gid://shopify/Order/1", [splitFulfillmentOrder "1" 1, splitFulfillmentOrder "2" 2]⟩

def splitLocalLines : List LocalLine := [⟨1, 1, "7", 3⟩]

/-- Strings as they are compared when they have the same length and differ by digits. -/
def digitCompare : LocaleCompare := fun a b => decide (a ≤ b)

def splitPlanLines : List SopyoShopifyExecutionPlanLine :=
  [⟨1, "gid://shopify/FulfillmentOrder/1", "gid://shopify/FulfillmentOrderLineItem/1",
      "gid://shopify/LineItem/7", 1⟩,
    ⟨1, "gid://shopify/FulfillmentOrder/2", "gid://shopify/FulfillmentOrderLineItem/2",
      "gid://shopify/LineItem/7", 2⟩]

def splitPlan : SopyoShopifyExecutionPlan :=
  ⟨1, "gid://shopify/Order/1", "location", [], splitPlanLines⟩

/-- A fulfillment of some quantities of the two fulfillment orders. -/
def splitFulfillment (first second : ℤ) : ShopifyFulfillment :=
  ⟨"gid://shopify/Order/1", "location", "SUCCESS", [⟨some "carrier", some "tracking"⟩],
    [⟨"gid://shopify/FulfillmentOrder/1", "gid://shopify/FulfillmentOrderLineItem/1",
        "gid://shopify/LineItem/7", first⟩,
      ⟨"gid://shopify/FulfillmentOrder/2", "gid://shopify/FulfillmentOrderLineItem/2",
        "gid://shopify/LineItem/7", second⟩]⟩

def splitEvidence : ShopifySopyoFulfillmentEvidence :=
  ⟨"gid://shopify/Fulfillment/1", "gid://shopify/Order/1", "location",
    ["gid://shopify/FulfillmentOrder/1", "gid://shopify/FulfillmentOrder/2"],
    [⟨"gid://shopify/LineItem/7", 3⟩], [⟨some "carrier", some "tracking"⟩], "SUCCESS"⟩

lemma digitCompare_isCollation : IsCollation digitCompare := by
  constructor
  · intro a b
    simp only [digitCompare, decide_eq_true_eq]
    exact String.le_total a b
  · intro a b c hab hbc
    simp only [digitCompare, decide_eq_true_eq] at hab hbc ⊢
    exact String.le_trans hab hbc

lemma digitCompare_separates (ids : List String) : Separates digitCompare ids := by
  intro a _ b _ hab hba
  simp only [digitCompare, decide_eq_true_eq] at hab hba
  exact String.le_antisymm hab hba

/-- The read says the same of both ways to fulfil three pieces. -/
lemma splitEvidence_readAs {first second : ℤ} (h : first + second = 3) :
    ReadAs (splitFulfillment first second) splitEvidence := by
  refine ⟨rfl, rfl, rfl, rfl, by decide, fun gid => Iff.rfl, ?_, fun gid => ?_⟩
  · intro line hline
    rw [List.mem_singleton.mp hline]
    decide
  · show totalAt gid [("gid://shopify/LineItem/7", (3 : ℤ))] =
      totalAt gid [("gid://shopify/LineItem/7", first), ("gid://shopify/LineItem/7", second)]
    unfold totalAt
    rw [valuesAt_cons, valuesAt_cons, valuesAt_cons, valuesAt_nil]
    split <;> simp [h]

theorem sopyoExecutionPlan_exact_sample :
    ShipsAllocation splitLocalLines "location" splitCanonical splitPlanLines ∧
    (matchesSopyoShopifyExecutionPlan digitCompare splitEvidence splitPlan "carrier"
      "tracking" = true ↔ Fulfils (splitFulfillment 1 2) splitPlan "carrier" "tracking") := by
  have hbuild : buildSopyoShopifyExecutionLines digitCompare splitLocalLines [] "location"
      splitCanonical = some splitPlanLines := by decide +kernel
  have hexact := sopyoExecutionPlan_exact digitCompare_isCollation (by decide)
    (digitCompare_separates _) (digitCompare_separates _) hbuild
  exact ⟨hexact.1, (hexact.2.2 splitPlan (List.Perm.refl _) "carrier" "tracking" _ _
    (splitEvidence_readAs (by norm_num))).2⟩

/-- One and two pieces are planned; two and one match. -/
theorem sopyoExecutionPlan_split_not_compared :
    buildSopyoShopifyExecutionLines digitCompare splitLocalLines [] "location" splitCanonical =
      some splitPlan.lines ∧
    ReadAs (splitFulfillment 2 1) splitEvidence ∧
    matchesSopyoShopifyExecutionPlan digitCompare splitEvidence splitPlan "carrier" "tracking" =
      true ∧
    (splitFulfillment 2 1).lines.map (·.quantity) = [2, 1] ∧
    splitPlan.lines.map (·.quantity) = [1, 2] := by
  refine ⟨by decide +kernel, splitEvidence_readAs (by norm_num), by decide +kernel, rfl, rfl⟩

end VendorDashboard.VendorIntegration

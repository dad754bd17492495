import VendorDashboard.Framework.Grouping
import VendorDashboard.Framework.Reordering
import VendorDashboard.Shopify.FulfillmentOrderCancelClassifier

/-!
# Which fulfillment orders are safe to cancel

An order is safe when all its lines are covered by the refund and Shopify would cancel it
(`overallClassification_safe_iff`).  Nothing depends on the order of fulfillment orders, of the
selected lines or of the owners.  The classification of one order is overwritten line by line, so it
depends on the order of its lines exactly when it mixes kinds of lines of which each overwrites the
other (`Settled`).
-/

namespace VendorDashboard.Shopify

open Grouping Reordering
open Orders (FulfillmentOrderCancellationOverallClassification)

/-! ## Kinds of lines -/

/-- What the loop over the lines distinguishes. -/
inductive LineKind
  | covered
  /-- Without an identity or without one local owner. -/
  | unowned
  | outside
  /-- Without a remaining quantity. -/
  | missing
  | mismatch
  deriving DecidableEq

open FulfillmentOrderCancellationClassification

/-- What a line makes of the classification. -/
def LineKind.next (c : FulfillmentOrderCancellationClassification) :
    LineKind → FulfillmentOrderCancellationClassification
  | .covered => c
  | .unowned => unknown
  | .outside => unsafeMixedFulfillmentOrder
  | .missing => if c = unsafeMixedFulfillmentOrder then c else unknown
  | .mismatch => if c = unsafeMixedFulfillmentOrder then c else quantityMismatch

/-- The classification after all lines. -/
def verdict (kinds : List LineKind) : FulfillmentOrderCancellationClassification :=
  kinds.foldl LineKind.next safeToCancel

/-- No two kinds of lines overwrite each other. -/
def Settled (kinds : List LineKind) : Prop :=
  (LineKind.outside ∈ kinds → LineKind.unowned ∉ kinds) ∧
    (LineKind.outside ∉ kinds → LineKind.mismatch ∈ kinds →
      LineKind.unowned ∉ kinds ∧ LineKind.missing ∉ kinds)

instance (kinds : List LineKind) : Decidable (Settled kinds) :=
  inferInstanceAs (Decidable (_ ∧ _))

lemma Settled.perm {l m : List LineKind} (h : Settled l) (hperm : l.Perm m) : Settled m := by
  unfold Settled at h ⊢
  simpa only [hperm.mem_iff] using h

/-- After the line that decides. -/
lemma verdict_append_cons (l m : List LineKind) (k : LineKind) :
    verdict (l ++ k :: m) = m.foldl LineKind.next (k.next (verdict l)) := by
  simp only [verdict, List.foldl_append, List.foldl_cons]

lemma foldl_next_eq_self {c : FulfillmentOrderCancellationClassification} {l : List LineKind}
    (h : ∀ k ∈ l, k.next c = c) : l.foldl LineKind.next c = c := by
  induction l with
  | nil => rfl
  | cons k l ih =>
      rw [List.foldl_cons, h k List.mem_cons_self]
      exact ih fun k' hk' => h k' (List.mem_cons_of_mem _ hk')

lemma verdict_eq_of_mem {l : List LineKind} {k : LineKind}
    {c : FulfillmentOrderCancellationClassification} (hk : k ∈ l)
    (hdecides : ∀ m : List LineKind, (∀ k' ∈ m, k' ∈ l) → k.next (verdict m) = c)
    (hstays : ∀ k' ∈ l, k'.next c = c) : verdict l = c := by
  obtain ⟨before, after, rfl⟩ := List.append_of_mem hk
  rw [verdict_append_cons, hdecides before fun k' hk' => List.mem_append_left _ hk']
  exact foldl_next_eq_self fun k' hk' =>
    hstays k' (List.mem_append_right _ (List.mem_cons_of_mem _ hk'))

/-- Only a line outside of the refund makes an order mixed. -/
lemma verdict_ne_unsafeMixed {l : List LineKind} (h : LineKind.outside ∉ l) :
    verdict l ≠ unsafeMixedFulfillmentOrder := by
  have hfold : ∀ c ≠ unsafeMixedFulfillmentOrder,
      l.foldl LineKind.next c ≠ unsafeMixedFulfillmentOrder := by
    induction l with
    | nil => exact fun c hc => hc
    | cons k l ih =>
        intro c hc
        rw [List.foldl_cons]
        refine ih (fun hmem => h (List.mem_cons_of_mem _ hmem)) _ ?_
        cases k with
        | covered => exact hc
        | outside => exact absurd List.mem_cons_self h
        | unowned => exact fun heq => by cases heq
        | missing =>
            rw [LineKind.next, if_neg hc]
            exact fun heq => by cases heq
        | mismatch =>
            rw [LineKind.next, if_neg hc]
            exact fun heq => by cases heq
  exact hfold safeToCancel fun heq => by cases heq

/-- What settled lines come to. -/
lemma Settled.verdict_eq {l : List LineKind} (h : Settled l) : verdict l =
    if LineKind.outside ∈ l then unsafeMixedFulfillmentOrder
    else if LineKind.unowned ∈ l ∨ LineKind.missing ∈ l then unknown
    else if LineKind.mismatch ∈ l then quantityMismatch
    else safeToCancel := by
  obtain ⟨hmixed, hmismatch⟩ := h
  by_cases houtside : LineKind.outside ∈ l
  · rw [if_pos houtside]
    refine verdict_eq_of_mem houtside (fun _ _ => rfl) fun k hk => ?_
    cases k with
    | covered => rfl
    | outside => rfl
    | missing => rfl
    | mismatch => rfl
    | unowned => exact absurd hk (hmixed houtside)
  · rw [if_neg houtside]
    by_cases hunknown : LineKind.unowned ∈ l ∨ LineKind.missing ∈ l
    · rw [if_pos hunknown]
      have hstays : ∀ k ∈ l, k.next unknown = unknown := by
        intro k hk
        cases k with
        | covered => rfl
        | unowned => rfl
        | missing => rfl
        | outside => exact absurd hk houtside
        | mismatch =>
            obtain ⟨hunowned, hmissing⟩ := hmismatch houtside hk
            exact absurd hunknown (not_or.mpr ⟨hunowned, hmissing⟩)
      rcases hunknown with hunowned | hmissing
      · exact verdict_eq_of_mem hunowned (fun _ _ => rfl) hstays
      · refine verdict_eq_of_mem hmissing (fun m hm => ?_) hstays
        exact if_neg (verdict_ne_unsafeMixed fun hmem => houtside (hm _ hmem))
    · rw [if_neg hunknown]
      obtain ⟨hunowned, hmissing⟩ := not_or.mp hunknown
      by_cases hquantity : LineKind.mismatch ∈ l
      · rw [if_pos hquantity]
        refine verdict_eq_of_mem hquantity (fun m hm => ?_) fun k hk => ?_
        · exact if_neg (verdict_ne_unsafeMixed fun hmem => houtside (hm _ hmem))
        · cases k with
          | covered => rfl
          | mismatch => rfl
          | outside => exact absurd hk houtside
          | unowned => exact absurd hk hunowned
          | missing => exact absurd hk hmissing
      · rw [if_neg hquantity]
        refine foldl_next_eq_self fun k hk => ?_
        cases k with
        | covered => rfl
        | outside => exact absurd hk houtside
        | unowned => exact absurd hk hunowned
        | missing => exact absurd hk hmissing
        | mismatch => exact absurd hk hquantity

theorem Settled.verdict_perm {l m : List LineKind} (h : Settled l) (hperm : l.Perm m) :
    verdict l = verdict m := by
  rw [h.verdict_eq, (h.perm hperm).verdict_eq]
  simp only [hperm.mem_iff]

/-- Two kinds of lines that overwrite each other, put last in both orders. -/
lemma exists_perm_verdict_ne {l : List LineKind} {k k' : LineKind} (hk : k ∈ l) (hk' : k' ∈ l)
    (hne : k ≠ k') (hlast : ∀ m : List LineKind, (∀ x ∈ m, x ∈ l) →
      k'.next (k.next (verdict m)) ≠ k.next (k'.next (verdict m))) :
    ∃ m, l.Perm m ∧ verdict l ≠ verdict m := by
  have hmem : k' ∈ l.erase k := (List.mem_erase_of_ne hne.symm).mpr hk'
  have hperm : l.Perm (k :: k' :: (l.erase k).erase k') :=
    (List.perm_cons_erase hk).trans ((List.perm_cons_erase hmem).cons k)
  generalize (l.erase k).erase k' = rest at hperm
  have hrest : ∀ x ∈ rest, x ∈ l := fun x hx =>
    hperm.mem_iff.mpr (List.mem_cons_of_mem _ (List.mem_cons_of_mem _ hx))
  have hfirst : l.Perm (rest ++ [k, k']) := hperm.trans
    (@List.perm_append_comm _ [k, k'] rest)
  have hsecond : l.Perm (rest ++ [k', k]) :=
    hfirst.trans ((List.Perm.swap k' k []).append_left rest)
  have hdiffer : verdict (rest ++ [k, k']) ≠ verdict (rest ++ [k', k]) := by
    rw [verdict_append_cons, verdict_append_cons]
    exact hlast rest hrest
  by_cases heq : verdict l = verdict (rest ++ [k, k'])
  · exact ⟨_, hsecond, heq ▸ hdiffer⟩
  · exact ⟨_, hfirst, heq⟩

/-- Lines that are not settled come to different classifications in different orders. -/
theorem settled_iff_verdict_perm {l : List LineKind} :
    Settled l ↔ ∀ m, l.Perm m → verdict l = verdict m := by
  constructor
  · exact fun h m hperm => h.verdict_perm hperm
  · intro h
    have hnone : ∀ {k k' : LineKind}, k ∈ l → k' ∈ l → k ≠ k' → ¬∀ m : List LineKind,
        (∀ x ∈ m, x ∈ l) → k'.next (k.next (verdict m)) ≠ k.next (k'.next (verdict m)) := by
      intro k k' hk hk' hne hlast
      obtain ⟨m, hperm, hdiffer⟩ := exists_perm_verdict_ne hk hk' hne hlast
      exact hdiffer (h m hperm)
    constructor
    · intro houtside hunowned
      exact hnone houtside hunowned (fun heq => by cases heq) fun m _ heq => by cases heq
    · intro houtside hmismatch
      have hkept : ∀ m : List LineKind, (∀ x ∈ m, x ∈ l) →
          verdict m ≠ unsafeMixedFulfillmentOrder := fun m hm =>
        verdict_ne_unsafeMixed fun hmem => houtside (hm _ hmem)
      constructor
      · intro hunowned
        refine hnone hunowned hmismatch (fun heq => by cases heq) fun m _ heq => ?_
        have hfail : LineKind.next unknown .mismatch ≠ unknown := by decide
        exact hfail heq
      · intro hmissing
        refine hnone hmissing hmismatch (fun heq => by cases heq) fun m hm heq => ?_
        simp only [LineKind.next, if_neg (hkept m hm)] at heq
        cases heq

lemma verdict_eq_safe_iff {l : List LineKind} :
    verdict l = safeToCancel ↔ ∀ k ∈ l, k = LineKind.covered := by
  constructor
  · induction l using List.reverseRecOn with
    | nil => exact fun _ k hk => by cases hk
    | append_singleton l k ih =>
        intro h
        rw [verdict_append_cons, List.foldl_nil] at h
        have hcovered : k = LineKind.covered := by
          cases k with
          | covered => rfl
          | unowned => cases h
          | outside => cases h
          | missing =>
              rw [LineKind.next] at h
              split at h
              · rename_i hmixed
                rw [hmixed] at h
                cases h
              · cases h
          | mismatch =>
              rw [LineKind.next] at h
              split at h
              · rename_i hmixed
                rw [hmixed] at h
                cases h
              · cases h
        subst hcovered
        intro k hk
        rcases List.mem_append.mp hk with hk | hk
        · exact ih h k hk
        · exact List.mem_singleton.mp hk
  · intro h
    exact foldl_next_eq_self fun k hk => by rw [h k hk, LineKind.next]

variable {toLowerCase : String → String}

/-! ## Local knowledge -/

/-- Writing under a name, the last write is found. -/
lemma lookup_foldl_write {α β : Type} (key : α → String) (f : α → β) (l : List α) (id : String) :
    (l.foldl (fun entries x => if key x = "" then entries else (key x, f x) :: entries) []).lookup
      id = if id = "" then none else ((l.filter fun x => key x = id).getLast?).map f := by
  induction l using List.reverseRecOn with
  | nil => simp
  | append_singleton l x ih =>
      rw [List.foldl_append, List.foldl_cons, List.foldl_nil, List.filter_append]
      by_cases hkey : key x = ""
      · rw [if_pos hkey, ih]
        by_cases hid : id = ""
        · rw [if_pos hid, if_pos hid]
        · have hne : ¬ key x = id := fun heq => hid (heq.symm.trans hkey)
          rw [if_neg hid, if_neg hid, List.filter_singleton, decide_eq_false hne]
          simp
      · rw [if_neg hkey]
        by_cases hid : key x = id
        · subst hid
          rw [List.lookup_cons_self, if_neg hkey, List.filter_singleton]
          simp
        · have hne : (id == key x) = false := by simpa using Ne.symm hid
          rw [List.lookup_cons, hne, ih, List.filter_singleton, decide_eq_false hid]
          simp

/-- The lines of a list with an identity. -/
def withId {α : Type} (toLowerCase : String → String) (text : α → String) (id : String)
    (l : List α) : List α :=
  l.filter fun x => normalizeShopifyIdentifier toLowerCase (text x) = id

lemma lookup_selectedQuantities (selected : List SelectedLineItem) (id : String) :
    (selectedQuantitiesByLineItemId toLowerCase selected).lookup id = if id = "" then none
      else ((withId toLowerCase (·.lineItemId) id selected).getLast?).map (·.quantity) := by
  have hwrite := lookup_foldl_write
    (fun item : SelectedLineItem => normalizeShopifyIdentifier toLowerCase item.lineItemId)
    (fun item => item.quantity) selected id
  unfold withId
  rw [← hwrite]
  rfl

lemma localOwners_concat (owners : List LocalLineItemOwner) (owner : LocalLineItemOwner) :
    localOwners toLowerCase (owners ++ [owner]) =
      (localOwners toLowerCase owners).add toLowerCase owner := by
  simp only [localOwners, List.foldl_append, List.foldl_cons, List.foldl_nil]

lemma lookup_localOwners (owners : List LocalLineItemOwner) (id : String) :
    (localOwners toLowerCase owners).ownersByLineItemId.lookup id = if id = "" then none
      else (withId toLowerCase (·.sourceLineItemId) id owners).getLast? := by
  have hwrites : (localOwners toLowerCase owners).ownersByLineItemId =
      owners.foldl (fun entries x =>
        if normalizeShopifyIdentifier toLowerCase x.sourceLineItemId = "" then entries
        else (normalizeShopifyIdentifier toLowerCase x.sourceLineItemId, x) :: entries) [] := by
    induction owners using List.reverseRecOn with
    | nil => rfl
    | append_singleton owners owner ih =>
        rw [localOwners_concat, List.foldl_append, List.foldl_cons, List.foldl_nil, ← ih,
          LineItemOwners.add]
        by_cases hblank : normalizeShopifyIdentifier toLowerCase owner.sourceLineItemId = ""
        · rw [if_pos hblank, if_pos hblank]
        · rw [if_neg hblank, if_neg hblank]
  have hwrite := lookup_foldl_write
    (fun x : LocalLineItemOwner => normalizeShopifyIdentifier toLowerCase x.sourceLineItemId)
    (fun x => x) owners id
  rw [Option.map_id_fun', id_eq] at hwrite
  unfold withId
  rw [hwrites, hwrite]

/-- A line is ambiguous when it has several owners. -/
lemma mem_ambiguousLineItemIds (owners : List LocalLineItemOwner) (id : String) :
    id ∈ (localOwners toLowerCase owners).ambiguousLineItemIds ↔
      id ≠ "" ∧ 2 ≤ (withId toLowerCase (·.sourceLineItemId) id owners).length := by
  induction owners using List.reverseRecOn with
  | nil => simp [localOwners, withId]
  | append_singleton owners owner ih =>
      have hlookup := @lookup_localOwners toLowerCase owners
        (normalizeShopifyIdentifier toLowerCase owner.sourceLineItemId)
      have hwith : withId toLowerCase (·.sourceLineItemId) id (owners ++ [owner]) =
          withId toLowerCase (·.sourceLineItemId) id owners ++
            if normalizeShopifyIdentifier toLowerCase owner.sourceLineItemId = id then [owner]
            else [] := by
        rw [withId, List.filter_append, List.filter_singleton]
        by_cases hid : normalizeShopifyIdentifier toLowerCase owner.sourceLineItemId = id <;>
          simp [withId, hid]
      rw [hwith, List.length_append, localOwners_concat, LineItemOwners.add]
      generalize normalizeShopifyIdentifier toLowerCase owner.sourceLineItemId = key at hlookup ⊢
      by_cases hblank : key = ""
      · rw [if_pos hblank, ih]
        by_cases hid : key = id
        · have hid' : id = "" := hid.symm.trans hblank
          exact ⟨fun h => absurd hid' h.1, fun h => absurd hid' h.1⟩
        · rw [if_neg hid, List.length_nil, Nat.add_zero]
      · rw [if_neg hblank] at hlookup ⊢
        show id ∈ (if _ then _ else _ : List String) ↔ _
        rw [hlookup]
        by_cases hid : key = id
        · subst hid
          rw [if_pos rfl, List.length_singleton]
          cases hfound : withId toLowerCase (·.sourceLineItemId) key owners with
          | nil =>
              rw [hfound] at ih
              rw [List.getLast?_nil, if_neg (by simp), ih]
              simp
          | cons o os =>
              rw [if_pos (by simp), List.length_cons]
              simp only [List.mem_cons, true_or, true_iff]
              exact ⟨hblank, by omega⟩
        · rw [if_neg hid, List.length_nil, Nat.add_zero, ← ih]
          split
          · rw [List.mem_cons]
            exact ⟨fun h => h.resolve_left (Ne.symm hid), Or.inr⟩
          · exact Iff.rfl

/-! ## Lines -/

/-- The tests of the loop. -/
def lineKind (toLowerCase : String → String) (allocationId : String)
    (ambiguousLineItemIds : List String)
    (lineItem : FulfillmentOrderCancellationLineItemClassification) : LineKind :=
  let normalizedLineItemId := normalizeShopifyIdentifier toLowerCase lineItem.shopifyLineItemId
  if normalizedLineItemId = "" ∨ normalizedLineItemId ∈ ambiguousLineItemIds ∨
      lineItem.ownerAllocationId.getD "" = "" then .unowned
  else if lineItem.selected = false ∨ lineItem.ownerAllocationId ≠ some allocationId then .outside
  else if lineItem.remainingQuantity = none then .missing
  else if lineItem.selectedQuantity ≠ lineItem.remainingQuantity then .mismatch
  else .covered

lemma classifyLineItem_classification (allocationId : String) (ambiguous : List String)
    (orderId : String) (s : ClassificationState)
    (lineItem : FulfillmentOrderCancellationLineItemClassification) :
    (classifyLineItem toLowerCase allocationId ambiguous orderId s lineItem).classification =
      (lineKind toLowerCase allocationId ambiguous lineItem).next s.classification := by
  have hunlessMixed : ∀ (t : ClassificationState) (c : FulfillmentOrderCancellationClassification),
      (t.classifyUnlessMixed c).classification =
        if t.classification = unsafeMixedFulfillmentOrder then t.classification else c := by
    intro t c
    unfold ClassificationState.classifyUnlessMixed
    split <;> rfl
  simp only [classifyLineItem, lineKind]
  by_cases hblank : normalizeShopifyIdentifier toLowerCase lineItem.shopifyLineItemId = ""
  · rw [if_pos hblank, if_pos (Or.inl hblank)]
    rfl
  rw [if_neg hblank]
  by_cases hambiguous :
      normalizeShopifyIdentifier toLowerCase lineItem.shopifyLineItemId ∈ ambiguous
  · rw [if_pos hambiguous, if_pos (Or.inr (Or.inl hambiguous))]
    rfl
  rw [if_neg hambiguous]
  by_cases howner : lineItem.ownerAllocationId.getD "" = ""
  · rw [if_pos howner, if_pos (Or.inr (Or.inr howner))]
    rfl
  rw [if_neg howner, if_neg (not_or.mpr ⟨hblank, not_or.mpr ⟨hambiguous, howner⟩⟩)]
  split
  · rfl
  split
  · exact hunlessMixed _ _
  split
  · exact hunlessMixed _ _
  · rfl

lemma foldl_classifyLineItem_classification (allocationId : String) (ambiguous : List String)
    (orderId : String) (s : ClassificationState)
    (lineItems : List FulfillmentOrderCancellationLineItemClassification) :
    (lineItems.foldl (classifyLineItem toLowerCase allocationId ambiguous orderId)
      s).classification =
      (lineItems.map (lineKind toLowerCase allocationId ambiguous)).foldl LineKind.next
        s.classification := by
  induction lineItems generalizing s with
  | nil => rfl
  | cons lineItem lineItems ih =>
      rw [List.foldl_cons, List.map_cons, List.foldl_cons, ih, classifyLineItem_classification]

namespace CancellationSafetyInput

variable (toLowerCase : String → String) (input : CancellationSafetyInput)

/-- The line belongs to the refund: its one local owner is the refunded allocation, and what is
selected of it is what remains of it. -/
structure Covers (line : FulfillmentOrderCancellationLineItem) : Prop where
  identified : normalizeShopifyIdentifier toLowerCase line.lineItemId ≠ ""
  allocated : input.allocationId ≠ ""
  owned : ∃ owner, withId toLowerCase (·.sourceLineItemId)
    (normalizeShopifyIdentifier toLowerCase line.lineItemId) input.localLineItemOwners = [owner] ∧
      owner.allocationId = input.allocationId
  selected : ∃ item ∈ input.selectedLineItems,
    normalizeShopifyIdentifier toLowerCase item.lineItemId =
      normalizeShopifyIdentifier toLowerCase line.lineItemId ∧
    line.remainingQuantity = some item.quantity

/-- The line is selected for the refund. -/
def Selects (line : FulfillmentOrderCancellationLineItem) : Prop :=
  normalizeShopifyIdentifier toLowerCase line.lineItemId ≠ "" ∧
    ∃ item ∈ input.selectedLineItems, normalizeShopifyIdentifier toLowerCase item.lineItemId =
      normalizeShopifyIdentifier toLowerCase line.lineItemId

/-- A fulfillment order that is not terminal and contains a selected line. -/
structure Affects (order : FulfillmentOrderForCancellationClassification) : Prop where
  active : order.isTerminalFulfillmentOrder toLowerCase = false
  selected : ∃ line ∈ order.lineItems, input.Selects toLowerCase line

/-- The selected lines have different identities. -/
def DistinctSelection : Prop := (input.selectedLineItems.map fun item =>
  normalizeShopifyIdentifier toLowerCase item.lineItemId).Nodup

/-- What the code knows of a line. -/
def classified (line : FulfillmentOrderCancellationLineItem) :
    FulfillmentOrderCancellationLineItemClassification :=
  lineItemClassification toLowerCase
    (selectedQuantitiesByLineItemId toLowerCase input.selectedLineItems)
    (localOwners toLowerCase input.localLineItemOwners) line

/-- The kind of a line of the order. -/
def kindOf (line : FulfillmentOrderCancellationLineItem) : LineKind :=
  lineKind toLowerCase input.allocationId
    (localOwners toLowerCase input.localLineItemOwners).ambiguousLineItemIds
    (input.classified toLowerCase line)

def kinds (order : FulfillmentOrderForCancellationClassification) : List LineKind :=
  order.lineItems.map (input.kindOf toLowerCase)

variable {toLowerCase input} {line : FulfillmentOrderCancellationLineItem}

lemma classified_selectedQuantity : (input.classified toLowerCase line).selectedQuantity =
    if normalizeShopifyIdentifier toLowerCase line.lineItemId = "" then none
    else ((withId toLowerCase (·.lineItemId) (normalizeShopifyIdentifier toLowerCase line.lineItemId)
      input.selectedLineItems).getLast?).map (·.quantity) :=
  lookup_selectedQuantities _ _

lemma classified_ownerAllocationId : (input.classified toLowerCase line).ownerAllocationId =
    (if normalizeShopifyIdentifier toLowerCase line.lineItemId = "" then none
    else (withId toLowerCase (·.sourceLineItemId)
      (normalizeShopifyIdentifier toLowerCase line.lineItemId)
      input.localLineItemOwners).getLast?).map (·.allocationId) := by
  rw [← lookup_localOwners]
  rfl

/-- A selected line has the one quantity that is selected of it. -/
lemma selectedQuantity_eq_some_iff (hdistinct : input.DistinctSelection toLowerCase) {q : ℚ} :
    (input.classified toLowerCase line).selectedQuantity = some q ↔
      normalizeShopifyIdentifier toLowerCase line.lineItemId ≠ "" ∧
      ∃ item ∈ input.selectedLineItems, normalizeShopifyIdentifier toLowerCase item.lineItemId =
        normalizeShopifyIdentifier toLowerCase line.lineItemId ∧ item.quantity = q := by
  rw [classified_selectedQuantity]
  generalize normalizeShopifyIdentifier toLowerCase line.lineItemId = id
  by_cases hblank : id = ""
  · rw [if_pos hblank]
    exact ⟨fun h => (by cases h), fun h => absurd hblank h.1⟩
  · rw [if_neg hblank, Option.map_eq_some_iff]
    constructor
    · rintro ⟨item, hitem, rfl⟩
      have hmem := List.mem_of_getLast? hitem
      rw [withId, List.mem_filter, decide_eq_true_eq] at hmem
      exact ⟨hblank, item, hmem.1, hmem.2, rfl⟩
    · rintro ⟨-, item, hitem, hid, rfl⟩
      have hmem : item ∈ withId toLowerCase (·.lineItemId) id input.selectedLineItems :=
        List.mem_filter.mpr ⟨hitem, decide_eq_true hid⟩
      cases hlast : (withId toLowerCase (·.lineItemId) id input.selectedLineItems).getLast? with
      | none =>
          rw [List.getLast?_eq_none_iff.mp hlast] at hmem
          cases hmem
      | some last =>
          refine ⟨last, rfl, ?_⟩
          have hlast' := List.mem_of_getLast? hlast
          rw [withId, List.mem_filter, decide_eq_true_eq] at hlast'
          rw [List.inj_on_of_nodup_map hdistinct hlast'.1 hitem (hlast'.2.trans hid.symm)]

lemma selected_iff (hdistinct : input.DistinctSelection toLowerCase) :
    (input.classified toLowerCase line).selected = true ↔ input.Selects toLowerCase line := by
  show (input.classified toLowerCase line).selectedQuantity.isSome = true ↔ _
  rw [Option.isSome_iff_exists]
  constructor
  · rintro ⟨q, hq⟩
    obtain ⟨hblank, item, hitem, hid, -⟩ := (selectedQuantity_eq_some_iff hdistinct).mp hq
    exact ⟨hblank, item, hitem, hid⟩
  · rintro ⟨hblank, item, hitem, hid⟩
    exact ⟨item.quantity,
      (selectedQuantity_eq_some_iff hdistinct).mpr ⟨hblank, item, hitem, hid, rfl⟩⟩

/-- The loop leaves the classification alone exactly at the lines of the refund. -/
theorem kindOf_eq_covered_iff (hdistinct : input.DistinctSelection toLowerCase) :
    input.kindOf toLowerCase line = .covered ↔ input.Covers toLowerCase line := by
  have hid : (input.classified toLowerCase line).shopifyLineItemId = line.lineItemId := rfl
  have hremaining : (input.classified toLowerCase line).remainingQuantity =
      line.remainingQuantity := rfl
  by_cases hblank : normalizeShopifyIdentifier toLowerCase line.lineItemId = ""
  · simp only [kindOf, lineKind, hid, hblank, true_or, if_true]
    exact ⟨fun h => (by cases h), fun h => absurd hblank h.identified⟩
  simp only [kindOf, lineKind, hid, hremaining, mem_ambiguousLineItemIds,
    classified_ownerAllocationId, if_neg hblank]
  constructor
  · intro h
    split_ifs at h with hunowned houtside hmissing hmismatch
    obtain ⟨-, howner⟩ := not_or.mp hunowned
    obtain ⟨hunique, hnamed⟩ := not_or.mp howner
    obtain ⟨-, hforeign⟩ := not_or.mp houtside
    obtain ⟨q, hq⟩ := Option.ne_none_iff_exists'.mp hmissing
    rw [not_not, hq] at hmismatch
    obtain ⟨-, item, hitem, hitemId, rfl⟩ := (selectedQuantity_eq_some_iff hdistinct).mp hmismatch
    obtain ⟨owner, howner, hallocation⟩ := Option.map_eq_some_iff.mp (not_not.mp hforeign)
    refine ⟨hblank, ?_, ⟨owner, ?_, hallocation⟩, item, hitem, hitemId, hq⟩
    · rw [howner, Option.map_some, Option.getD_some] at hnamed
      exact hallocation ▸ hnamed
    · generalize withId toLowerCase (·.sourceLineItemId)
        (normalizeShopifyIdentifier toLowerCase line.lineItemId) input.localLineItemOwners = owners
        at hunique howner
      match owners, hunique, howner with
      | [o], _, howner =>
          rw [List.getLast?_singleton, Option.some.injEq] at howner
          rw [howner]
      | [], _, howner => cases howner
      | o :: o' :: os, hunique, _ => exact absurd ⟨hblank, by simp⟩ hunique
  · rintro ⟨-, hallocation, ⟨owner, howner, hrefunded⟩, item, hitem, hitemId, hquantity⟩
    have hselected := (@selectedQuantity_eq_some_iff _ _ line hdistinct _).mpr
      ⟨hblank, item, hitem, hitemId, rfl⟩
    have hflag : (input.classified toLowerCase line).selected = true :=
      (selected_iff hdistinct).mpr ⟨hblank, item, hitem, hitemId⟩
    rw [howner, List.getLast?_singleton, Option.map_some, Option.getD_some, hrefunded,
      hquantity, hselected, hflag]
    simp [hblank, hallocation]

end CancellationSafetyInput

/-! ## One fulfillment order -/

section Orders

variable {input : CancellationSafetyInput} {order : FulfillmentOrderForCancellationClassification}

/-- What the tests after the loop make of a classification. -/
def concluded (toLowerCase : String → String)
    (order : FulfillmentOrderForCancellationClassification)
    (c : FulfillmentOrderCancellationClassification) : FulfillmentOrderCancellationClassification :=
  if c ≠ safeToCancel then c
  else if order.supportedActions = none then unknown
  else if order.hasDirectCancelAction toLowerCase = false then
    if order.isOpenUnsubmittedFulfillmentOrder toLowerCase = true then
      openUnsubmittedRefundRequiresPostCheck
    else unsupportedRequestStatus
  else if normalizeToken toLowerCase order.requestStatus = "" then unknown
  else if order.hasConfirmedCancellationCompatibleStatus toLowerCase = false then
    unsupportedRequestStatus
  else safeToCancel

lemma classifyIfSafe_classification (s : ClassificationState) (message : String)
    (c : FulfillmentOrderCancellationClassification) :
    ((s.block message).classifyIfSafe c).classification =
      if s.classification = safeToCancel then c else s.classification := by
  show (if s.classification = safeToCancel then (s.block message).classify c
    else s.block message).classification = _
  split <;> rfl

lemma warnIfSafe_classification (s : ClassificationState) :
    (warnIfSafe s).classification = s.classification := by
  unfold warnIfSafe
  split <;> rfl

lemma checkRequestStatus_classification (s : ClassificationState) :
    (checkRequestStatus toLowerCase order s).classification =
      if s.classification ≠ safeToCancel then s.classification
      else if normalizeToken toLowerCase order.requestStatus = "" then unknown
      else if order.hasConfirmedCancellationCompatibleStatus toLowerCase = false then
        unsupportedRequestStatus
      else safeToCancel := by
  unfold checkRequestStatus
  by_cases hsafe : s.classification = safeToCancel
  · rw [if_neg (not_not_intro hsafe)]
    by_cases hblank : normalizeToken toLowerCase order.requestStatus = ""
    · rw [if_pos hblank, if_pos hblank, classifyIfSafe_classification, if_pos hsafe]
    · rw [if_neg hblank, if_neg hblank]
      have hopen : s.classification ≠ openUnsubmittedRefundRequiresPostCheck := by
        rw [hsafe]
        decide
      by_cases hstatus : order.hasConfirmedCancellationCompatibleStatus toLowerCase = false
      · rw [if_pos ⟨hopen, hstatus⟩, if_pos hstatus, classifyIfSafe_classification, if_pos hsafe]
      · rw [if_neg fun h => hstatus h.2, if_neg hstatus, hsafe]
  · rw [if_pos hsafe]
    split
    · rw [classifyIfSafe_classification, if_neg hsafe]
    split
    · rw [classifyIfSafe_classification, if_neg hsafe]
    · rfl

lemma checkSupportedActions_classification (s : ClassificationState) :
    (checkSupportedActions toLowerCase order s).classification =
      if s.classification ≠ safeToCancel then s.classification
      else if order.supportedActions = none then unknown
      else if order.hasDirectCancelAction toLowerCase = false then
        if order.isOpenUnsubmittedFulfillmentOrder toLowerCase = true then
          openUnsubmittedRefundRequiresPostCheck
        else unsupportedRequestStatus
      else safeToCancel := by
  unfold checkSupportedActions
  by_cases hsafe : s.classification = safeToCancel
  · rw [if_neg (not_not_intro hsafe)]
    by_cases hactions : order.supportedActions = none
    · rw [if_pos hactions, if_pos hactions, classifyIfSafe_classification, if_pos hsafe]
    rw [if_neg hactions, if_neg hactions]
    by_cases hdirect : order.hasDirectCancelAction toLowerCase = false
    · rw [if_pos hdirect, if_pos hdirect]
      by_cases hopen : order.isOpenUnsubmittedFulfillmentOrder toLowerCase = true
      · rw [if_pos (And.intro hsafe (And.intro hdirect hopen)), if_pos hopen]
        rfl
      · have hnot : ¬(s.classification = safeToCancel ∧
            order.hasDirectCancelAction toLowerCase = false ∧
            order.isOpenUnsubmittedFulfillmentOrder toLowerCase = true) := fun h => hopen h.2.2
        rw [if_neg hnot, if_neg hopen, classifyIfSafe_classification, if_pos hsafe]
    · have hnot : ¬(s.classification = safeToCancel ∧
          order.hasDirectCancelAction toLowerCase = false ∧
          order.isOpenUnsubmittedFulfillmentOrder toLowerCase = true) := fun h => hdirect h.2.1
      rw [if_neg hnot, if_neg hdirect, if_neg hdirect, hsafe]
  · rw [if_pos hsafe]
    split
    · rw [classifyIfSafe_classification, if_neg hsafe]
    split
    · rename_i h
      exact absurd h.1 hsafe
    split
    · rw [classifyIfSafe_classification, if_neg hsafe]
    · rfl

lemma checks_classification (s : ClassificationState) :
    (checkRequestStatus toLowerCase order
      (checkSupportedActions toLowerCase order s)).classification =
      concluded toLowerCase order s.classification := by
  rw [checkRequestStatus_classification, checkSupportedActions_classification, concluded]
  generalize s.classification = c
  by_cases hsafe : c = safeToCancel
  · subst hsafe
    by_cases hactions : order.supportedActions = none
    · simp [hactions]
    by_cases hdirect : order.hasDirectCancelAction toLowerCase = false
    · by_cases hopen : order.isOpenUnsubmittedFulfillmentOrder toLowerCase = true <;>
        simp [hactions, hdirect, hopen]
    · simp [hactions, hdirect]
  · rw [if_pos hsafe, if_pos hsafe, if_pos hsafe]

lemma concluded_of_ne {c : FulfillmentOrderCancellationClassification} (h : c ≠ safeToCancel) :
    concluded toLowerCase order c = c := if_pos h

/-- Shopify would cancel the order. -/
structure Cancelable (toLowerCase : String → String)
    (order : FulfillmentOrderForCancellationClassification) : Prop where
  direct : order.hasDirectCancelAction toLowerCase = true
  compatible : order.hasConfirmedCancellationCompatibleStatus toLowerCase = true
  requested : normalizeToken toLowerCase order.requestStatus ≠ ""

lemma concluded_eq_safe_iff {c : FulfillmentOrderCancellationClassification} :
    concluded toLowerCase order c = safeToCancel ↔
      c = safeToCancel ∧ Cancelable toLowerCase order := by
  by_cases hsafe : c = safeToCancel
  · subst hsafe
    rw [concluded, if_neg (not_not_intro rfl)]
    constructor
    · intro h
      split_ifs at h with hactions hdirect hopen hblank hstatus
      exact ⟨rfl, eq_true_of_ne_false hdirect, eq_true_of_ne_false hstatus, hblank⟩
    · rintro ⟨-, hdirect, hstatus, hblank⟩
      have hactions : order.supportedActions ≠ none := by
        intro hnone
        rw [FulfillmentOrderForCancellationClassification.hasDirectCancelAction, hnone] at hdirect
        cases hdirect
      rw [if_neg hactions, if_neg (by rw [hdirect]; decide), if_neg hblank,
        if_neg (by rw [hstatus]; decide)]
  · rw [concluded_of_ne hsafe]
    exact ⟨fun h => absurd h hsafe, fun h => absurd h.1 hsafe⟩

/-- A post-check is asked for only where all lines were left alone. -/
lemma safe_of_concluded_eq_open {c : FulfillmentOrderCancellationClassification}
    (hc : c ≠ openUnsubmittedRefundRequiresPostCheck)
    (h : concluded toLowerCase order c = openUnsubmittedRefundRequiresPostCheck) :
    c = safeToCancel := by
  by_contra hsafe
  rw [concluded_of_ne hsafe] at h
  exact hc h

lemma verdict_ne_open (l : List LineKind) : verdict l ≠ openUnsubmittedRefundRequiresPostCheck ∧
    verdict l ≠ alreadyClosedOrCancelled := by
  induction l using List.reverseRecOn with
  | nil => exact ⟨by decide, by decide⟩
  | append_singleton l k ih =>
      rw [verdict_append_cons, List.foldl_nil]
      cases k with
      | covered => exact ih
      | unowned => exact ⟨fun h => (by cases h), fun h => (by cases h)⟩
      | outside => exact ⟨fun h => (by cases h), fun h => (by cases h)⟩
      | missing =>
          rw [LineKind.next]
          split
          · exact ih
          · exact ⟨by decide, by decide⟩
      | mismatch =>
          rw [LineKind.next]
          split
          · exact ih
          · exact ⟨by decide, by decide⟩

lemma concluded_ne_closed {c : FulfillmentOrderCancellationClassification}
    (hc : c ≠ alreadyClosedOrCancelled) :
    concluded toLowerCase order c ≠ alreadyClosedOrCancelled := by
  unfold concluded
  split_ifs <;> first | exact hc | decide

/-- The affected order of a fulfillment order. -/
def CancellationSafetyInput.affected (toLowerCase : String → String)
    (input : CancellationSafetyInput) (order : FulfillmentOrderForCancellationClassification) :
    Option FulfillmentOrderCancellationAffectedOrder :=
  classifyFulfillmentOrder toLowerCase input.allocationId
    (selectedQuantitiesByLineItemId toLowerCase input.selectedLineItems)
    (localOwners toLowerCase input.localLineItemOwners) order

lemma affected_eq_none_iff (hdistinct : input.DistinctSelection toLowerCase) :
    input.affected toLowerCase order = none ↔
      ∀ line ∈ order.lineItems, ¬ input.Selects toLowerCase line := by
  have hany : (order.lineItems.map (input.classified toLowerCase)).any (·.selected) = false ↔
      ∀ line ∈ order.lineItems, ¬ input.Selects toLowerCase line := by
    rw [List.any_eq_false]
    simp only [List.forall_mem_map, CancellationSafetyInput.selected_iff hdistinct]
  rw [← hany]
  unfold CancellationSafetyInput.affected classifyFulfillmentOrder
  show (if (order.lineItems.map (input.classified toLowerCase)).any (·.selected) = false then none
    else some _) = none ↔ _
  split
  · rename_i h
    exact ⟨fun _ => h, fun _ => rfl⟩
  · rename_i h
    exact ⟨fun hnone => (by cases hnone), fun hfalse => absurd hfalse h⟩

/-- The classification of an affected order. -/
lemma affected_classification {a : FulfillmentOrderCancellationAffectedOrder}
    (h : input.affected toLowerCase order = some a) : a.fulfillmentOrderId = order.id ∧
      a.classification = if order.isTerminalFulfillmentOrder toLowerCase = true then
        alreadyClosedOrCancelled
      else concluded toLowerCase order (verdict (input.kinds toLowerCase order)) := by
  unfold CancellationSafetyInput.affected classifyFulfillmentOrder at h
  simp only [Option.ite_none_left_eq_some, Option.some.injEq] at h
  obtain ⟨-, rfl⟩ := h
  refine ⟨rfl, ?_⟩
  show ClassificationState.classification (if _ then _ else _) = _
  by_cases hterminal : order.isTerminalFulfillmentOrder toLowerCase = true
  · rw [if_pos hterminal, if_pos hterminal]
  · rw [if_neg hterminal, if_neg hterminal, warnIfSafe_classification, checks_classification,
      foldl_classifyLineItem_classification, List.map_map]
    unfold verdict CancellationSafetyInput.kinds CancellationSafetyInput.kindOf
      CancellationSafetyInput.classified Function.comp
    rfl

end Orders

/-! ## All fulfillment orders -/

/-- The four tests, by precedence. -/
lemma overallOf_eq (affected : List FulfillmentOrderCancellationAffectedOrder) :
    overallOf affected =
      if (∃ a ∈ affected, a.classification ≠ alreadyClosedOrCancelled) ∧
          ∀ a ∈ affected, a.classification ≠ alreadyClosedOrCancelled →
            a.classification = safeToCancel then .safeToCancel
      else if ∃ a ∈ affected, a.classification ∈
          [unsafeMixedFulfillmentOrder, unsupportedRequestStatus, quantityMismatch] then .blocked
      else if ∃ a ∈ affected, a.classification = unknown then .unknown
      else if ∃ a ∈ affected, a.classification = openUnsubmittedRefundRequiresPostCheck then
        .postCheckRequired
      else .noCancellationNeeded := by
  have hany : ∀ p : FulfillmentOrderCancellationClassification → Prop, ∀ [DecidablePred p],
      ¬ p alreadyClosedOrCancelled →
      (((affected.filter fun a => decide (a.classification ≠ alreadyClosedOrCancelled)).any
        fun a => decide (p a.classification)) = true ↔ ∃ a ∈ affected, p a.classification) := by
    intro p _ hclosed
    simp only [List.any_eq_true, List.mem_filter, decide_eq_true_eq]
    constructor
    · rintro ⟨a, ⟨ha, -⟩, hp⟩
      exact ⟨a, ha, hp⟩
    · rintro ⟨a, ha, hp⟩
      exact ⟨a, ⟨ha, fun heq => hclosed (heq ▸ hp)⟩, hp⟩
  have hsafe : ((affected.filter fun a =>
        decide (a.classification ≠ alreadyClosedOrCancelled)) ≠ [] ∧
      (affected.filter fun a => decide (a.classification ≠ alreadyClosedOrCancelled)).all
        (fun a => decide (a.classification = safeToCancel)) = true) ↔
      (∃ a ∈ affected, a.classification ≠ alreadyClosedOrCancelled) ∧
        ∀ a ∈ affected, a.classification ≠ alreadyClosedOrCancelled →
          a.classification = safeToCancel := by
    simp only [List.all_eq_true, List.mem_filter, decide_eq_true_eq, and_imp, ne_eq,
      List.filter_eq_nil_iff, not_forall, not_not, exists_prop]
  unfold overallOf
  simp only [hsafe, hany (· = unknown) (by decide),
    hany (· ∈ [unsafeMixedFulfillmentOrder, unsupportedRequestStatus, quantityMismatch])
      (by decide), hany (· = openUnsubmittedRefundRequiresPostCheck) (by decide)]
  split
  · rfl
  split
  · rw [if_neg fun h => h.1 rfl]
  split
  · rw [if_neg fun h => h.2.1 rfl]
  · by_cases hopen : ∃ a ∈ affected, a.classification = openUnsubmittedRefundRequiresPostCheck
    · rw [if_pos ⟨fun h => (by cases h), fun h => (by cases h), hopen⟩, if_pos hopen]
    · rw [if_neg fun h => hopen h.2.2, if_neg hopen]

/-- Affected orders with the same classifications in any order. -/
lemma overallOf_reordered {l m : List FulfillmentOrderCancellationAffectedOrder}
    (h : Reordered (fun a a' => a.fulfillmentOrderId = a'.fulfillmentOrderId ∧
      a.classification = a'.classification) l m) : overallOf l = overallOf m := by
  have hexists : ∀ p : FulfillmentOrderCancellationClassification → Prop,
      (∃ a ∈ l, p a.classification) ↔ ∃ a ∈ m, p a.classification := by
    intro p
    constructor
    · rintro ⟨a, ha, hp⟩
      obtain ⟨b, hb, -, heq⟩ := h.exists_right ha
      exact ⟨b, hb, heq ▸ hp⟩
    · rintro ⟨b, hb, hp⟩
      obtain ⟨a, ha, -, heq⟩ := h.exists_left hb
      exact ⟨a, ha, heq ▸ hp⟩
  have hforall : (∀ a ∈ l, a.classification ≠ alreadyClosedOrCancelled →
      a.classification = safeToCancel) ↔ ∀ a ∈ m, a.classification ≠ alreadyClosedOrCancelled →
        a.classification = safeToCancel := by
    have hnot := not_congr
      (hexists fun c => ¬(c ≠ alreadyClosedOrCancelled → c = safeToCancel))
    simpa only [not_exists, not_and, not_not] using hnot
  rw [overallOf_eq, overallOf_eq]
  simp only [hforall, hexists (· ≠ alreadyClosedOrCancelled), hexists (· = unknown),
    hexists (· ∈ [unsafeMixedFulfillmentOrder, unsupportedRequestStatus, quantityMismatch]),
    hexists (· = openUnsubmittedRefundRequiresPostCheck)]

section Safety

variable {input input' : CancellationSafetyInput}

lemma mem_affected {a : FulfillmentOrderCancellationAffectedOrder} :
    a ∈ (classifyFulfillmentOrderCancellationSafety toLowerCase input).affectedFulfillmentOrders ↔
      ∃ order ∈ input.fulfillmentOrders, input.affected toLowerCase order = some a :=
  List.mem_filterMap

/-- Whether an order is affected, and what it is classified as. -/
lemma affected_cases (hdistinct : input.DistinctSelection toLowerCase)
    (order : FulfillmentOrderForCancellationClassification) :
    (input.Affects toLowerCase order → ∃ a, input.affected toLowerCase order = some a ∧
      a.classification = concluded toLowerCase order (verdict (input.kinds toLowerCase order))) ∧
    ∀ a, input.affected toLowerCase order = some a →
      (a.classification ≠ alreadyClosedOrCancelled ↔ input.Affects toLowerCase order) := by
  constructor
  · rintro ⟨hactive, hselected⟩
    cases hsome : input.affected toLowerCase order with
    | none =>
        obtain ⟨line, hline, hselects⟩ := hselected
        exact absurd hselects ((affected_eq_none_iff hdistinct).mp hsome line hline)
    | some a =>
        refine ⟨a, rfl, ?_⟩
        rw [(affected_classification hsome).2, if_neg (by rw [hactive]; decide)]
  · intro a ha
    have hselected : ∃ line ∈ order.lineItems, input.Selects toLowerCase line := by
      by_contra hnone
      push Not at hnone
      rw [(affected_eq_none_iff hdistinct).mpr hnone] at ha
      cases ha
    rw [(affected_classification ha).2]
    constructor
    · intro hopen
      refine ⟨?_, hselected⟩
      by_contra hterminal
      rw [if_pos (eq_true_of_ne_false hterminal)] at hopen
      exact hopen rfl
    · rintro ⟨hactive, -⟩
      rw [if_neg (by rw [hactive]; decide)]
      exact concluded_ne_closed (verdict_ne_open _).2

lemma verdict_kinds_eq_safe_iff (hdistinct : input.DistinctSelection toLowerCase)
    {order : FulfillmentOrderForCancellationClassification} :
    verdict (input.kinds toLowerCase order) = safeToCancel ↔
      ∀ line ∈ order.lineItems, input.Covers toLowerCase line := by
  rw [verdict_eq_safe_iff, CancellationSafetyInput.kinds, List.forall_mem_map]
  simp only [CancellationSafetyInput.kindOf_eq_covered_iff hdistinct]

/-- A refund is safe when every order it affects consists of covered lines and can be cancelled. -/
theorem overallClassification_safe_iff (hdistinct : input.DistinctSelection toLowerCase) :
    (classifyFulfillmentOrderCancellationSafety toLowerCase input).overallClassification =
      .safeToCancel ↔
    (∃ order ∈ input.fulfillmentOrders, input.Affects toLowerCase order) ∧
      ∀ order ∈ input.fulfillmentOrders, input.Affects toLowerCase order →
        Cancelable toLowerCase order ∧
          ∀ line ∈ order.lineItems, input.Covers toLowerCase line := by
  have hactive : (∃ a ∈ (classifyFulfillmentOrderCancellationSafety toLowerCase
      input).affectedFulfillmentOrders, a.classification ≠ alreadyClosedOrCancelled) ↔
      ∃ order ∈ input.fulfillmentOrders, input.Affects toLowerCase order := by
    constructor
    · rintro ⟨a, ha, hopen⟩
      obtain ⟨order, horder, hsome⟩ := mem_affected.mp ha
      exact ⟨order, horder, ((affected_cases hdistinct order).2 a hsome).mp hopen⟩
    · rintro ⟨order, horder, haffects⟩
      obtain ⟨a, hsome, -⟩ := (affected_cases hdistinct order).1 haffects
      exact ⟨a, mem_affected.mpr ⟨order, horder, hsome⟩,
        ((affected_cases hdistinct order).2 a hsome).mpr haffects⟩
  have hall : (∀ a ∈ (classifyFulfillmentOrderCancellationSafety toLowerCase
      input).affectedFulfillmentOrders, a.classification ≠ alreadyClosedOrCancelled →
        a.classification = safeToCancel) ↔
      ∀ order ∈ input.fulfillmentOrders, input.Affects toLowerCase order →
        Cancelable toLowerCase order ∧
          ∀ line ∈ order.lineItems, input.Covers toLowerCase line := by
    constructor
    · intro h order horder haffects
      obtain ⟨a, hsome, hclass⟩ := (affected_cases hdistinct order).1 haffects
      have hsafe := h a (mem_affected.mpr ⟨order, horder, hsome⟩)
        (((affected_cases hdistinct order).2 a hsome).mpr haffects)
      obtain ⟨hverdict, hcancelable⟩ := concluded_eq_safe_iff.mp (hclass ▸ hsafe)
      exact ⟨hcancelable, (verdict_kinds_eq_safe_iff hdistinct).mp hverdict⟩
    · intro h a ha hopen
      obtain ⟨order, horder, hsome⟩ := mem_affected.mp ha
      have haffects := ((affected_cases hdistinct order).2 a hsome).mp hopen
      obtain ⟨hcancelable, hcovers⟩ := h order horder haffects
      obtain ⟨b, hsome', hclass⟩ := (affected_cases hdistinct order).1 haffects
      obtain rfl := Option.some.inj (hsome.symm.trans hsome')
      rw [hclass]
      exact concluded_eq_safe_iff.mpr
        ⟨(verdict_kinds_eq_safe_iff hdistinct).mpr hcovers, hcancelable⟩
  rw [← hactive, ← hall]
  show overallOf _ = _ ↔ _
  rw [overallOf_eq]
  constructor
  · intro h
    split at h
    · assumption
    split at h
    · cases h
    split at h
    · cases h
    split at h
    · cases h
    · cases h
  · exact fun h => if_pos h

/-- A post-check is asked for only where every affected order consists of covered lines. -/
theorem covers_of_postCheckRequired (hdistinct : input.DistinctSelection toLowerCase)
    (h : (classifyFulfillmentOrderCancellationSafety toLowerCase input).overallClassification =
      .postCheckRequired) {order : FulfillmentOrderForCancellationClassification}
    (horder : order ∈ input.fulfillmentOrders) (haffects : input.Affects toLowerCase order) :
    ∀ line ∈ order.lineItems, input.Covers toLowerCase line := by
  obtain ⟨a, hsome, hclass⟩ := (affected_cases hdistinct order).1 haffects
  have ha := mem_affected.mpr ⟨order, horder, hsome⟩
  have hopen := ((affected_cases hdistinct order).2 a hsome).mpr haffects
  rw [← verdict_kinds_eq_safe_iff hdistinct]
  change overallOf _ = _ at h
  rw [overallOf_eq] at h
  split at h
  · cases h
  rename_i hsafe
  split at h
  · cases h
  rename_i hblocked
  split at h
  · cases h
  rename_i hunknown
  have hverdict := (verdict_ne_open (input.kinds toLowerCase order)).1
  cases hc : a.classification with
  | safeToCancel => exact (concluded_eq_safe_iff.mp (hclass ▸ hc)).1
  | openUnsubmittedRefundRequiresPostCheck =>
      exact safe_of_concluded_eq_open hverdict (hclass ▸ hc)
  | alreadyClosedOrCancelled => exact absurd hc hopen
  | unknown => exact absurd ⟨a, ha, hc⟩ hunknown
  | unsafeMixedFulfillmentOrder => exact absurd ⟨a, ha, by simp [hc]⟩ hblocked
  | unsupportedRequestStatus => exact absurd ⟨a, ha, by simp [hc]⟩ hblocked
  | quantityMismatch => exact absurd ⟨a, ha, by simp [hc]⟩ hblocked

end Safety

/-! ## Another order -/

namespace CancellationSafetyInput

/-- An order with its lines in another order, unless it mixes kinds of lines that overwrite each
other. -/
structure LinesReordered (toLowerCase : String → String) (input : CancellationSafetyInput)
    (order order' : FulfillmentOrderForCancellationClassification) : Prop where
  fields : order' = { order with lineItems := order'.lineItems }
  lineItems : order.lineItems.Perm order'.lineItems
  settled : order.lineItems = order'.lineItems ∨
    (input.Affects toLowerCase order → Settled (input.kinds toLowerCase order))

/-- The input with its lists in another order. -/
structure Reorders (toLowerCase : String → String) (input input' : CancellationSafetyInput) :
    Prop where
  allocationId : input.allocationId = input'.allocationId
  selectedLineItems : input.selectedLineItems.Perm input'.selectedLineItems
  localLineItemOwners : input.localLineItemOwners.Perm input'.localLineItemOwners
  fulfillmentOrders : Reordered (input.LinesReordered toLowerCase) input.fulfillmentOrders
    input'.fulfillmentOrders

namespace Reorders

variable {input input' : CancellationSafetyInput} (h : input.Reorders toLowerCase input')
  (hdistinct : input.DistinctSelection toLowerCase)

include h

lemma distinctSelection (hdistinct : input.DistinctSelection toLowerCase) :
    input'.DistinctSelection toLowerCase :=
  (h.selectedLineItems.map _).nodup_iff.mp hdistinct

lemma selects_iff (line : FulfillmentOrderCancellationLineItem) :
    input.Selects toLowerCase line ↔ input'.Selects toLowerCase line := by
  simp only [Selects, h.selectedLineItems.mem_iff]

include hdistinct

lemma selectedQuantity_eq (line : FulfillmentOrderCancellationLineItem) :
    (input.classified toLowerCase line).selectedQuantity =
      (input'.classified toLowerCase line).selectedQuantity := by
  refine Option.ext fun q => ?_
  rw [selectedQuantity_eq_some_iff hdistinct,
    selectedQuantity_eq_some_iff (h.distinctSelection hdistinct)]
  simp only [h.selectedLineItems.mem_iff]

/-- The kind of a line does not depend on the order of the lists.  The last of several owners does,
but a line with several owners is ambiguous. -/
lemma kindOf_eq (line : FulfillmentOrderCancellationLineItem) :
    input.kindOf toLowerCase line = input'.kindOf toLowerCase line := by
  have hquantity := h.selectedQuantity_eq hdistinct line
  have hselected : (input.classified toLowerCase line).selected =
      (input'.classified toLowerCase line).selected := congrArg Option.isSome hquantity
  have hid : ∀ i : CancellationSafetyInput,
      (i.classified toLowerCase line).shopifyLineItemId = line.lineItemId := fun _ => rfl
  have hremaining : ∀ i : CancellationSafetyInput,
      (i.classified toLowerCase line).remainingQuantity = line.remainingQuantity := fun _ => rfl
  simp only [kindOf, lineKind, hid, hremaining, mem_ambiguousLineItemIds, ← hquantity, ← hselected,
    ← h.allocationId]
  by_cases hblank : normalizeShopifyIdentifier toLowerCase line.lineItemId = ""
  · simp only [hblank, true_or, if_true]
  rw [classified_ownerAllocationId, classified_ownerAllocationId, if_neg hblank, if_neg hblank]
  have hperm : (withId toLowerCase (·.sourceLineItemId)
      (normalizeShopifyIdentifier toLowerCase line.lineItemId) input.localLineItemOwners).Perm
      (withId toLowerCase (·.sourceLineItemId)
        (normalizeShopifyIdentifier toLowerCase line.lineItemId) input'.localLineItemOwners) :=
    h.localLineItemOwners.filter _
  rw [← hperm.length_eq]
  generalize withId toLowerCase (·.sourceLineItemId)
    (normalizeShopifyIdentifier toLowerCase line.lineItemId) input.localLineItemOwners = owners
    at hperm ⊢
  match owners, hperm with
  | [], hperm => rw [hperm.nil_eq]
  | [o], hperm => rw [List.perm_singleton.mp hperm.symm]
  | o :: o' :: os, _ => simp [hblank]

lemma kinds_eq (order : FulfillmentOrderForCancellationClassification) :
    input.kinds toLowerCase order = input'.kinds toLowerCase order :=
  List.map_congr_left fun line _ => h.kindOf_eq hdistinct line

/-- The classification of one order. -/
lemma affected_rel {order order' : FulfillmentOrderForCancellationClassification}
    (hlines : input.LinesReordered toLowerCase order order') :
    Option.Rel (fun a a' : FulfillmentOrderCancellationAffectedOrder =>
      a.fulfillmentOrderId = a'.fulfillmentOrderId ∧ a.classification = a'.classification)
      (input.affected toLowerCase order) (input'.affected toLowerCase order') := by
  obtain ⟨hfields, hperm, hsettled⟩ := hlines
  have hdistinct' := h.distinctSelection hdistinct
  have hnone : input.affected toLowerCase order = none ↔
      input'.affected toLowerCase order' = none := by
    rw [affected_eq_none_iff hdistinct, affected_eq_none_iff hdistinct']
    simp only [hperm.mem_iff, h.selects_iff]
  cases hsome : input.affected toLowerCase order with
  | none =>
      rw [hnone.mp hsome]
      exact Option.Rel.none
  | some a =>
      cases hsome' : input'.affected toLowerCase order' with
      | none =>
          rw [hnone.mpr hsome'] at hsome
          cases hsome
      | some a' =>
          obtain ⟨hid, hclass⟩ := affected_classification hsome
          obtain ⟨hid', hclass'⟩ := affected_classification hsome'
          have hsame : order'.id = order.id := by rw [hfields]
          have hterminal : order'.isTerminalFulfillmentOrder toLowerCase =
              order.isTerminalFulfillmentOrder toLowerCase := by rw [hfields]; rfl
          refine Option.Rel.some ⟨hid.trans (hsame.symm.trans hid'.symm), ?_⟩
          rw [hclass, hclass', hterminal]
          by_cases hclosed : order.isTerminalFulfillmentOrder toLowerCase = true
          · rw [if_pos hclosed, if_pos hclosed]
          · rw [if_neg hclosed, if_neg hclosed]
            have hconcluded : ∀ c, concluded toLowerCase order' c =
                concluded toLowerCase order c := by
              intro c
              rw [hfields]
              rfl
            rw [hconcluded, ← h.kinds_eq hdistinct]
            have haffects : input.Affects toLowerCase order := by
              refine ((affected_cases hdistinct order).2 a hsome).mp ?_
              rw [hclass, if_neg hclosed]
              exact concluded_ne_closed (verdict_ne_open _).2
            rcases hsettled with hsame | hsettled
            · rw [kinds, kinds, hsame]
            · rw [(hsettled haffects).verdict_perm (hperm.map _)]
              rfl

/-- Nothing else depends on the order of the lists. -/
theorem classification_reordered :
    Reordered (fun a a' : FulfillmentOrderCancellationAffectedOrder =>
      a.fulfillmentOrderId = a'.fulfillmentOrderId ∧ a.classification = a'.classification)
      (classifyFulfillmentOrderCancellationSafety toLowerCase input).affectedFulfillmentOrders
      (classifyFulfillmentOrderCancellationSafety toLowerCase input').affectedFulfillmentOrders :=
  h.fulfillmentOrders.filterMap fun _ _ hlines => h.affected_rel hdistinct hlines

end Reorders

end CancellationSafetyInput

/-- The order of the lines of an affected order matters exactly when it mixes kinds of lines that
overwrite each other. -/
theorem classification_perm_iff_settled {input : CancellationSafetyInput}
    (hdistinct : input.DistinctSelection toLowerCase)
    {order : FulfillmentOrderForCancellationClassification}
    (haffects : input.Affects toLowerCase order) :
    Settled (input.kinds toLowerCase order) ↔
      ∀ lineItems a a', order.lineItems.Perm lineItems →
        input.affected toLowerCase order = some a →
        input.affected toLowerCase { order with lineItems } = some a' →
        a.classification = a'.classification := by
  have hclasses : ∀ lineItems a, order.lineItems.Perm lineItems →
      input.affected toLowerCase { order with lineItems } = some a → a.classification =
        concluded toLowerCase order (verdict (lineItems.map (input.kindOf toLowerCase))) := by
    intro lineItems a _ ha
    have hopen : ¬ order.isTerminalFulfillmentOrder toLowerCase = true := by
      rw [haffects.active]
      decide
    rw [(affected_classification ha).2]
    exact if_neg hopen
  constructor
  · intro hsettled lineItems a a' hperm ha ha'
    rw [hclasses order.lineItems a (List.Perm.refl _) ha, hclasses lineItems a' hperm ha']
    exact congrArg _ (hsettled.verdict_perm (hperm.map _))
  · intro h
    rw [settled_iff_verdict_perm]
    intro m hm
    have hread : List.Forall₂ (fun k line => k = input.kindOf toLowerCase line)
        (input.kinds toLowerCase order) order.lineItems := by
      rw [CancellationSafetyInput.kinds, List.forall₂_map_left_iff]
      exact List.forall₂_same.mpr fun _ _ => rfl
    obtain ⟨lineItems, hkinds, hperm⟩ := List.perm_comp_forall₂ hm.symm hread
    have hmap : lineItems.map (input.kindOf toLowerCase) = m := by
      clear hperm hm h hread
      induction hkinds with
      | nil => rfl
      | cons hk _ ih => rw [List.map_cons, ih, hk]
    obtain ⟨a, ha, -⟩ := (affected_cases hdistinct order).1 haffects
    have haffects' : input.Affects toLowerCase { order with lineItems } := by
      obtain ⟨line, hline, hselects⟩ := haffects.selected
      exact ⟨haffects.active, line, hperm.mem_iff.mpr hline, hselects⟩
    obtain ⟨a', ha', -⟩ := (affected_cases hdistinct { order with lineItems }).1 haffects'
    have hsame := h lineItems a a' hperm.symm ha ha'
    rw [hclasses order.lineItems a (List.Perm.refl _) ha, hclasses lineItems a' hperm.symm ha',
      hmap] at hsame
    change concluded toLowerCase order (verdict (input.kinds toLowerCase order)) = _ at hsame
    by_cases hsafe : verdict (input.kinds toLowerCase order) = safeToCancel
    · rw [hsafe, verdict_eq_safe_iff.mpr fun k hk =>
        verdict_eq_safe_iff.mp hsafe k (hm.mem_iff.mpr hk)]
    · have hsafe' : verdict m ≠ safeToCancel := fun heq => hsafe <|
        verdict_eq_safe_iff.mpr fun k hk => verdict_eq_safe_iff.mp heq k (hm.mem_iff.mp hk)
      rwa [concluded_of_ne hsafe, concluded_of_ne hsafe'] at hsame

/-! ## Exactness -/

/-- The classifier answers that a refund is safe exactly when every order it affects can be
cancelled and consists of covered lines, asks for a post-check only when they consist of covered
lines, and does not depend on the order of its lists where affected orders do not mix kinds of lines
that overwrite each other. -/
theorem classifyFulfillmentOrderCancellationSafety_exact {input : CancellationSafetyInput}
    (hdistinct : input.DistinctSelection toLowerCase) :
    ((classifyFulfillmentOrderCancellationSafety toLowerCase input).overallClassification =
        .safeToCancel ↔
      (∃ order ∈ input.fulfillmentOrders, input.Affects toLowerCase order) ∧
        ∀ order ∈ input.fulfillmentOrders, input.Affects toLowerCase order →
          Cancelable toLowerCase order ∧
            ∀ line ∈ order.lineItems, input.Covers toLowerCase line) ∧
    ((classifyFulfillmentOrderCancellationSafety toLowerCase input).overallClassification =
        .postCheckRequired →
      ∀ order ∈ input.fulfillmentOrders, input.Affects toLowerCase order →
        ∀ line ∈ order.lineItems, input.Covers toLowerCase line) ∧
    ∀ input', input.Reorders toLowerCase input' →
      (classifyFulfillmentOrderCancellationSafety toLowerCase input).overallClassification =
        (classifyFulfillmentOrderCancellationSafety toLowerCase input').overallClassification ∧
      Reordered (fun a a' : FulfillmentOrderCancellationAffectedOrder =>
        a.fulfillmentOrderId = a'.fulfillmentOrderId ∧ a.classification = a'.classification)
        (classifyFulfillmentOrderCancellationSafety toLowerCase input).affectedFulfillmentOrders
        (classifyFulfillmentOrderCancellationSafety toLowerCase input').affectedFulfillmentOrders := by
  refine ⟨overallClassification_safe_iff hdistinct, ?_, ?_⟩
  · intro h order horder haffects
    exact covers_of_postCheckRequired hdistinct h horder haffects
  · intro input' hreorders
    have hclasses := hreorders.classification_reordered hdistinct
    exact ⟨overallOf_reordered hclasses, hclasses⟩

def sampleLine (id : String) (quantity : ℚ) : FulfillmentOrderCancellationLineItem :=
  ⟨"gid://shopify/FulfillmentOrderLineItem/" ++ id, "gid://shopify/LineItem/" ++ id, some quantity,
    some quantity⟩

def sampleOrder (status requestStatus : Option String)
    (lineItems : List FulfillmentOrderCancellationLineItem) :
    FulfillmentOrderForCancellationClassification :=
  ⟨"gid://shopify/FulfillmentOrder/1", status, requestStatus, some ["CANCEL_FULFILLMENT_ORDER"],
    some "gid://shopify/Location/1", lineItems⟩

/-- Line 1 is refunded, line 2 belongs to another allocation and line 3 to none. -/
def sampleRefund (order : FulfillmentOrderForCancellationClassification) :
    CancellationSafetyInput :=
  { allocationId := "allocation-1"
    selectedLineItems := [⟨"gid://shopify/LineItem/1", 1⟩]
    fulfillmentOrders := [order]
    localLineItemOwners := [⟨"1", "allocation-1", "vendor-1"⟩, ⟨"2", "allocation-2", "vendor-2"⟩] }

/-- Lines 1 and 2 are refunded and in one order; one of them is also in a closed order, and a line of
another allocation has an order of its own. -/
def sampleSafeRefund : CancellationSafetyInput where
  allocationId := "allocation-1"
  selectedLineItems := [⟨"gid://shopify/LineItem/1", 1⟩, ⟨"gid://shopify/LineItem/2", 2⟩]
  fulfillmentOrders :=
    [sampleOrder (some "OPEN") (some "SUBMITTED") [sampleLine "1" 1, sampleLine "2" 2],
      sampleOrder (some "CLOSED") none [sampleLine "1" 1],
      sampleOrder (some "OPEN") (some "SUBMITTED") [sampleLine "3" 1]]
  localLineItemOwners := [⟨"1", "allocation-1", "vendor-1"⟩, ⟨"2", "allocation-1", "vendor-1"⟩,
    ⟨"3", "allocation-2", "vendor-2"⟩]

/-- The same with all lists reversed. -/
def sampleReversedRefund : CancellationSafetyInput where
  allocationId := "allocation-1"
  selectedLineItems := sampleSafeRefund.selectedLineItems.reverse
  fulfillmentOrders := sampleSafeRefund.fulfillmentOrders.reverse.map fun order =>
    { order with lineItems := order.lineItems.reverse }
  localLineItemOwners := sampleSafeRefund.localLineItemOwners.reverse

lemma sampleRefund_reorders :
    sampleSafeRefund.Reorders Text.toLowerCase sampleReversedRefund where
  allocationId := rfl
  selectedLineItems := (List.reverse_perm _).symm
  localLineItemOwners := (List.reverse_perm _).symm
  fulfillmentOrders := by
    have hsettled : ∀ order ∈ sampleSafeRefund.fulfillmentOrders.reverse,
        Settled (sampleSafeRefund.kinds Text.toLowerCase order) := by
      decide +kernel
    refine ⟨_, (List.reverse_perm _).symm, List.forall₂_map_right_iff.mpr ?_⟩
    exact List.forall₂_same.mpr fun order horder =>
      ⟨rfl, (List.reverse_perm _).symm, .inr fun _ => hsettled order horder⟩

/-- The refund is safe in both orders, and the orders that it affects can be cancelled. -/
theorem classifyFulfillmentOrderCancellationSafety_exact_sample :
    (∀ order ∈ sampleSafeRefund.fulfillmentOrders,
      sampleSafeRefund.Affects Text.toLowerCase order → Cancelable Text.toLowerCase order ∧
        ∀ line ∈ order.lineItems, sampleSafeRefund.Covers Text.toLowerCase line) ∧
    (classifyFulfillmentOrderCancellationSafety Text.toLowerCase
      sampleReversedRefund).overallClassification = .safeToCancel := by
  have hdistinct : sampleSafeRefund.DistinctSelection Text.toLowerCase := by
    unfold CancellationSafetyInput.DistinctSelection
    decide +kernel
  have hsafe : (classifyFulfillmentOrderCancellationSafety Text.toLowerCase
      sampleSafeRefund).overallClassification = .safeToCancel := by
    decide +kernel
  obtain ⟨hiff, -, hreordered⟩ := classifyFulfillmentOrderCancellationSafety_exact hdistinct
  exact ⟨(hiff.mp hsafe).2, (hreordered _ sampleRefund_reorders).1.symm.trans hsafe⟩

/-- An order without a request status. -/
def unrequestedOrder : FulfillmentOrderForCancellationClassification :=
  sampleOrder (some "SUBMITTED") none [sampleLine "1" 1]

/-- An order with a compatible status and a covered line is not safe without a request status, and
the classification of an order with a foreign line and an unknown one depends on their order. -/
theorem classifyFulfillmentOrderCancellationSafety_not_exact :
    (unrequestedOrder.hasDirectCancelAction Text.toLowerCase = true ∧
      unrequestedOrder.hasConfirmedCancellationCompatibleStatus Text.toLowerCase = true ∧
      (sampleRefund unrequestedOrder).kinds Text.toLowerCase unrequestedOrder = [.covered] ∧
      (classifyFulfillmentOrderCancellationSafety Text.toLowerCase
        (sampleRefund unrequestedOrder)).overallClassification = .unknown) ∧
    (classifyFulfillmentOrderCancellationSafety Text.toLowerCase (sampleRefund
      (sampleOrder (some "OPEN") (some "SUBMITTED")
        [sampleLine "1" 1, sampleLine "2" 1, sampleLine "3" 1]))).overallClassification =
      .unknown ∧
    (classifyFulfillmentOrderCancellationSafety Text.toLowerCase (sampleRefund
      (sampleOrder (some "OPEN") (some "SUBMITTED")
        [sampleLine "1" 1, sampleLine "3" 1, sampleLine "2" 1]))).overallClassification =
      .blocked := by
  decide +kernel

end VendorDashboard.Shopify

import VendorDashboard.Framework.Table

/-!
# Drawing an amount from a list of sources

`waterfall cap available l` draws `available` from the sources `l` in order: each gives as much
as it can, at most its capacity, and the draw stops when nothing is left to draw.

* Every draw is positive and within its capacity (`waterfall_bounds`), and together the draws do
  not exceed what was available (`sum_waterfall_le`).
* A source is drawn from exactly when it has capacity and the sources before it do not cover the
  amount (`mem_waterfall_iff`), which says who is reached without running the draw.

`serve cap demands l` serves several demands in order, each by a waterfall over what the sources
have left.  No source gives more than its capacity to all of them together (`drawn_serve_le`), and
the draws together are the smaller of the demands and the capacities (`sum_serve`).  Both sides are
served first in, first out: an earlier source is exhausted before a later one is drawn from
(`drawn_serve_eq`), and an earlier demand is met before a later one is served (`served_serve_eq`).
-/

namespace VendorDashboard.Waterfall

open Table

variable {α : Type*} {cap : α → ℤ}

/-- Draw `available` from the front of the list. -/
def waterfall (cap : α → ℤ) : ℤ → List α → List (α × ℤ)
  | _, [] => []
  | available, a :: l =>
      if available ≤ 0 then []
      else if min (cap a) available ≤ 0 then waterfall cap available l
      else (a, min (cap a) available) :: waterfall cap (available - min (cap a) available) l

/-- What the sources can give together. -/
def capacity (cap : α → ℤ) (l : List α) : ℤ := (l.map fun a => max (cap a) 0).sum

@[simp] lemma capacity_nil : capacity cap [] = 0 := rfl

@[simp] lemma capacity_cons (a : α) (l : List α) :
    capacity cap (a :: l) = max (cap a) 0 + capacity cap l := rfl

lemma capacity_nonneg (l : List α) : 0 ≤ capacity cap l :=
  List.sum_nonneg fun x hx => by
    obtain ⟨a, -, rfl⟩ := List.mem_map.mp hx
    exact le_max_right _ _

@[simp] lemma waterfall_nil (available : ℤ) : waterfall cap available [] = [] := rfl

lemma waterfall_of_nonpos {available : ℤ} (h : available ≤ 0) (l : List α) :
    waterfall cap available l = [] := by
  cases l with
  | nil => rfl
  | cons a l => simp [waterfall, h]

/-- Every draw is positive, from a source of the list and within its capacity. -/
lemma waterfall_bounds {available : ℤ} {l : List α} {d : α × ℤ}
    (h : d ∈ waterfall cap available l) : d.1 ∈ l ∧ 0 < d.2 ∧ d.2 ≤ cap d.1 := by
  induction l generalizing available with
  | nil => simp at h
  | cons a l ih =>
      unfold waterfall at h
      split at h
      · simp at h
      · split at h
        · obtain ⟨hl, hd⟩ := ih h
          exact ⟨List.mem_cons_of_mem _ hl, hd⟩
        · rcases List.mem_cons.mp h with rfl | h
          · exact ⟨List.mem_cons_self, by omega, min_le_left _ _⟩
          · obtain ⟨hl, hd⟩ := ih h
            exact ⟨List.mem_cons_of_mem _ hl, hd⟩

/-- No more is drawn than was available. -/
lemma sum_waterfall_le {available : ℤ} {l : List α} (h : 0 ≤ available) :
    ((waterfall cap available l).map Prod.snd).sum ≤ available := by
  induction l generalizing available with
  | nil => simpa using h
  | cons a l ih =>
      unfold waterfall
      split
      · simpa using h
      · split
        · exact ih h
        · have hrest := @ih (available - min (cap a) available) (by omega)
          simp only [List.map_cons, List.sum_cons]
          omega

/-- The draw is the smaller of what is available and what the sources can give. -/
lemma sum_waterfall {available : ℤ} {l : List α} (h : 0 ≤ available) :
    ((waterfall cap available l).map Prod.snd).sum = min available (capacity cap l) := by
  induction l generalizing available with
  | nil => simp [h]
  | cons a l ih =>
      have hnonneg : 0 ≤ capacity cap l := capacity_nonneg l
      rw [capacity_cons]
      unfold waterfall
      split
      · simp only [List.map_nil, List.sum_nil]
        omega
      · split
        · rw [ih h]
          omega
        · have hrest := @ih (available - min (cap a) available) (by omega)
          rw [List.map_cons, List.sum_cons, hrest]
          dsimp only
          omega

/-- The sources that are drawn from keep their order. -/
lemma waterfall_sublist (available : ℤ) (l : List α) :
    ((waterfall cap available l).map Prod.fst).Sublist l := by
  induction l generalizing available with
  | nil => simp
  | cons a l ih =>
      unfold waterfall
      split
      · simp
      · split
        · exact (ih _).cons _
        · exact (ih _).cons_cons _

/-- **Who is reached.**  A source is drawn from exactly when it has capacity and the sources
before it leave something to draw. -/
theorem mem_waterfall_iff {available : ℤ} {l : List α} {a : α} :
    a ∈ (waterfall cap available l).map Prod.fst ↔
      ∃ l₁ l₂, l = l₁ ++ a :: l₂ ∧ 0 < cap a ∧ capacity cap l₁ < available := by
  induction l generalizing available with
  | nil => simp
  | cons b l ih =>
      unfold waterfall
      split
      · rename_i hav
        refine ⟨fun h => by simp at h, ?_⟩
        rintro ⟨l₁, l₂, -, -, hlt⟩
        have hnonneg : 0 ≤ capacity cap l₁ := capacity_nonneg l₁
        omega
      · rename_i hav
        split
        · rename_i hcap
          have hb : cap b ≤ 0 := by omega
          rw [ih]
          constructor
          · rintro ⟨l₁, l₂, rfl, hpos, hlt⟩
            refine ⟨b :: l₁, l₂, rfl, hpos, ?_⟩
            rw [capacity_cons, max_eq_right hb]
            omega
          · rintro ⟨l₁, l₂, heq, hpos, hlt⟩
            cases l₁ with
            | nil =>
                obtain ⟨rfl, -⟩ := List.cons.inj heq
                omega
            | cons c l₁ =>
                obtain ⟨rfl, rfl⟩ := List.cons.inj heq
                rw [capacity_cons, max_eq_right hb] at hlt
                exact ⟨l₁, l₂, rfl, hpos, by omega⟩
        · rename_i hcap
          rw [List.map_cons, List.mem_cons, ih]
          constructor
          · rintro (rfl | ⟨l₁, l₂, rfl, hpos, hlt⟩)
            · exact ⟨[], l, rfl, by omega, by simpa using not_le.mp hav⟩
            · refine ⟨b :: l₁, l₂, rfl, hpos, ?_⟩
              have hnonneg : 0 ≤ capacity cap l₁ := capacity_nonneg l₁
              rw [capacity_cons]
              omega
          · rintro ⟨l₁, l₂, heq, hpos, hlt⟩
            cases l₁ with
            | nil =>
                obtain ⟨rfl, -⟩ := List.cons.inj heq
                exact .inl rfl
            | cons c l₁ =>
                obtain ⟨rfl, rfl⟩ := List.cons.inj heq
                refine .inr ⟨l₁, l₂, rfl, hpos, ?_⟩
                have hnonneg : 0 ≤ capacity cap l₁ := capacity_nonneg l₁
                rw [capacity_cons] at hlt
                omega

lemma capacity_sub {given : α → ℤ} {l : List α} (h : ∀ a ∈ l, 0 ≤ given a ∧ given a ≤ cap a) :
    capacity (fun a => cap a - given a) l = capacity cap l - (l.map given).sum := by
  induction l with
  | nil => rfl
  | cons a l ih =>
      obtain ⟨hnonneg, hle⟩ := h a List.mem_cons_self
      rw [capacity_cons, capacity_cons, List.map_cons, List.sum_cons,
        ih fun b hb => h b (List.mem_cons_of_mem _ hb)]
      omega

/-! ## Several demands -/

section Serve

variable {β : Type*}

/-- What the draws give to the demand `k`. -/
def served [DecidableEq β] (draws : List (β × α × ℤ)) (k : β) : ℤ :=
  total (fun w => decide (w.1 = k)) (·.2.2) draws

lemma served_eq_zero [DecidableEq β] {draws : List (β × α × ℤ)} {k : β}
    (h : k ∉ draws.map Prod.fst) : served draws k = 0 := by
  refine total_eq_zero fun w hw => decide_eq_false fun heq => h ?_
  rw [← heq]
  exact List.mem_map_of_mem hw

variable [DecidableEq α]

/-- What the draws take from the source `a`. -/
def drawn (draws : List (α × ℤ)) (a : α) : ℤ := total (fun d => decide (d.1 = a)) Prod.snd draws

lemma drawn_nonneg {available : ℤ} (l : List α) (a : α) :
    0 ≤ drawn (waterfall cap available l) a :=
  total_nonneg fun _ hd _ => le_of_lt (waterfall_bounds hd).2.1

/-- From a list without repetitions a source is drawn once. -/
lemma drawn_waterfall_le {available : ℤ} {l : List α} (hl : l.Nodup) {a : α} (ha : 0 ≤ cap a) :
    drawn (waterfall cap available l) a ≤ cap a := by
  induction l generalizing available with
  | nil => simpa [drawn] using ha
  | cons b l ih =>
      obtain ⟨hb, hl⟩ := List.nodup_cons.mp hl
      unfold waterfall
      split
      · simpa [drawn] using ha
      · split
        · exact ih hl
        · by_cases hba : b = a
          · subst hba
            have hrest : drawn (waterfall cap (available - min (cap b) available) l) b = 0 := by
              refine total_eq_zero fun d hd => ?_
              have hmem : d.1 ∈ l := (waterfall_bounds hd).1
              simp only [decide_eq_false_iff_not]
              rintro rfl
              exact hb hmem
            unfold drawn at hrest ⊢
            rw [total_cons, hrest]
            simp only [decide_true, if_true, add_zero]
            exact min_le_left _ _
          · have hrest := @ih (available - min (cap b) available) hl
            unfold drawn at hrest ⊢
            rw [total_cons]
            simpa [hba] using hrest

/-- Serve the demands in order from what the sources have left. -/
def serve : (α → ℤ) → List (β × ℤ) → List α → List (β × α × ℤ)
  | _, [], _ => []
  | cap, d :: demands, l =>
      (waterfall cap d.2 l).map (fun w => (d.1, w.1, w.2)) ++
        serve (fun a => cap a - drawn (waterfall cap d.2 l) a) demands l

/-- Every draw serves a demand, comes from a source of the list and is positive. -/
lemma serve_bounds {demands : List (β × ℤ)} {l : List α} {cap : α → ℤ} {w : β × α × ℤ}
    (h : w ∈ serve cap demands l) :
    w.1 ∈ demands.map Prod.fst ∧ w.2.1 ∈ l ∧ 0 < w.2.2 := by
  induction demands generalizing cap with
  | nil => simp [serve] at h
  | cons d demands ih =>
      rcases List.mem_append.mp h with h | h
      · obtain ⟨x, hx, rfl⟩ := List.mem_map.mp h
        obtain ⟨hl, hpos, -⟩ := waterfall_bounds hx
        exact ⟨List.mem_cons_self, hl, hpos⟩
      · obtain ⟨hd, hl, hpos⟩ := ih h
        exact ⟨List.mem_cons_of_mem _ hd, hl, hpos⟩

/-- **No source is overdrawn** by all the demands together. -/
theorem drawn_serve_le {demands : List (β × ℤ)} {l : List α} (hl : l.Nodup) {cap : α → ℤ} {a : α}
    (ha : 0 ≤ cap a) : drawn ((serve cap demands l).map Prod.snd) a ≤ cap a := by
  induction demands generalizing cap with
  | nil => simpa [serve, drawn] using ha
  | cons d demands ih =>
      have hfirst : drawn (waterfall cap d.2 l) a ≤ cap a := drawn_waterfall_le hl ha
      have hrest := @ih (fun b => cap b - drawn (waterfall cap d.2 l) b) (by omega)
      have hsnd : ((waterfall cap d.2 l).map fun w => (d.1, w.1, w.2)).map Prod.snd =
          waterfall cap d.2 l := by
        rw [List.map_map]
        exact List.map_id _
      unfold serve
      rw [List.map_append, hsnd]
      unfold drawn at hfirst hrest ⊢
      rw [total_append]
      omega

/-! ## First in, first out -/

lemma drawn_cons (d : α × ℤ) (draws : List (α × ℤ)) (a : α) :
    drawn (d :: draws) a = (if d.1 = a then d.2 else 0) + drawn draws a := by
  unfold drawn
  rw [total_cons]
  simp only [decide_eq_true_eq]

lemma drawn_append (draws draws' : List (α × ℤ)) (a : α) :
    drawn (draws ++ draws') a = drawn draws a + drawn draws' a := total_append ..

lemma drawn_eq_zero {draws : List (α × ℤ)} {a : α} (h : a ∉ draws.map Prod.fst) :
    drawn draws a = 0 := by
  refine total_eq_zero fun d hd => decide_eq_false fun heq => h ?_
  rw [← heq]
  exact List.mem_map_of_mem hd

lemma drawn_waterfall_eq_zero {available : ℤ} {l : List α} {a : α} (ha : a ∉ l) :
    drawn (waterfall cap available l) a = 0 :=
  drawn_eq_zero fun h => ha ((waterfall_sublist available l).subset h)

/-- A draw that goes beyond the front of the list exhausts it. -/
lemma drawn_waterfall_eq {available : ℤ} {l₁ l₂ : List α} (hl : (l₁ ++ l₂).Nodup) {b : α}
    (hb : b ∈ l₁) (hcap : 0 ≤ cap b) (h : capacity cap l₁ ≤ available) :
    drawn (waterfall cap available (l₁ ++ l₂)) b = cap b := by
  induction l₁ generalizing available with
  | nil => cases hb
  | cons c l₁ ih =>
      rw [List.cons_append] at hl ⊢
      obtain ⟨hc, hl⟩ := List.nodup_cons.mp hl
      have hnonneg : 0 ≤ capacity cap l₁ := capacity_nonneg l₁
      rw [capacity_cons] at h
      unfold waterfall
      rcases List.mem_cons.mp hb with rfl | hb
      · split
        · simp only [drawn, total_nil]
          omega
        · split
          · rw [drawn_waterfall_eq_zero hc]
            omega
          · rw [drawn_cons, if_pos rfl, drawn_waterfall_eq_zero hc]
            dsimp only
            omega
      · have hne : c ≠ b := by
          rintro rfl
          exact hc (List.mem_append_left _ hb)
        split
        · have hrest := @ih available hl hb (by omega)
          rw [waterfall_of_nonpos (by assumption)] at hrest
          exact hrest
        · split
          · exact ih hl hb (by omega)
          · rw [drawn_cons, if_neg hne, ih hl hb (by omega)]
            omega

/-- What the sources can give after a draw. -/
lemma capacity_sub_drawn {available : ℤ} {l : List α} (hl : l.Nodup)
    (hcap : ∀ a ∈ l, 0 ≤ cap a) :
    capacity (fun a => cap a - drawn (waterfall cap available l) a) l =
      capacity cap l - ((waterfall cap available l).map Prod.snd).sum := by
  have hgroups := sum_total_fiber hl (fun _ => true) Prod.fst Prod.snd (waterfall cap available l)
  simp only [Bool.true_and] at hgroups
  have htotal : total (fun d => decide (d.1 ∈ l)) Prod.snd (waterfall cap available l) =
      ((waterfall cap available l).map Prod.snd).sum := by
    unfold total
    refine congrArg _ (List.map_congr_left fun d hd => ?_)
    rw [if_pos (decide_eq_true (waterfall_bounds hd).1)]
  rw [capacity_sub fun a ha => ⟨drawn_nonneg l a, drawn_waterfall_le hl (hcap a ha)⟩, ← htotal,
    ← hgroups]
  rfl

section Demands

variable {demands : List (β × ℤ)} {l : List α} {d : β × ℤ}

lemma serve_cons : serve cap (d :: demands) l =
    (waterfall cap d.2 l).map (fun w => (d.1, w.1, w.2)) ++
      serve (fun a => cap a - drawn (waterfall cap d.2 l) a) demands l := rfl

lemma drawn_serve_cons (a : α) : drawn ((serve cap (d :: demands) l).map Prod.snd) a =
    drawn (waterfall cap d.2 l) a +
      drawn ((serve (fun a => cap a - drawn (waterfall cap d.2 l) a) demands l).map Prod.snd) a := by
  rw [serve_cons, List.map_append, drawn_append, List.map_map]
  congr 2
  exact List.map_id _

/-- A source gives something between nothing and its capacity. -/
lemma drawn_serve_bounds (hl : l.Nodup) (hcap : ∀ a ∈ l, 0 ≤ cap a) {a : α} (ha : a ∈ l) :
    0 ≤ drawn ((serve cap demands l).map Prod.snd) a ∧
      drawn ((serve cap demands l).map Prod.snd) a ≤ cap a := by
  refine ⟨total_nonneg fun w hw _ => ?_, drawn_serve_le hl (hcap a ha)⟩
  obtain ⟨w', hw', rfl⟩ := List.mem_map.mp hw
  exact (serve_bounds hw').2.2.le

/-- What is left after the first demand is not negative either. -/
lemma left_nonneg (hl : l.Nodup) (hcap : ∀ a ∈ l, 0 ≤ cap a) :
    ∀ a ∈ l, 0 ≤ cap a - drawn (waterfall cap d.2 l) a := fun a ha =>
  Int.sub_nonneg_of_le (drawn_waterfall_le hl (hcap a ha))

/-- **The draws together** are the smaller of the demands and the capacities. -/
theorem sum_serve (hl : l.Nodup) (hcap : ∀ a ∈ l, 0 ≤ cap a) (hdemands : ∀ d ∈ demands, 0 ≤ d.2) :
    ((serve cap demands l).map (·.2.2)).sum =
      min (demands.map Prod.snd).sum (capacity cap l) := by
  induction demands generalizing cap with
  | nil => simp [serve, capacity_nonneg]
  | cons d demands ih =>
      have hd := hdemands d List.mem_cons_self
      have hnonneg : 0 ≤ capacity cap l := capacity_nonneg l
      have hrest := ih (@left_nonneg α cap β _ l d hl hcap)
        fun e he => hdemands e (List.mem_cons_of_mem _ he)
      have hsum : 0 ≤ (demands.map Prod.snd).sum := List.sum_nonneg fun x hx => by
        obtain ⟨e, he, rfl⟩ := List.mem_map.mp hx
        exact hdemands e (List.mem_cons_of_mem _ he)
      rw [capacity_sub_drawn hl hcap, sum_waterfall hd] at hrest
      rw [serve_cons, List.map_append, List.sum_append, List.map_map, hrest]
      have hfirst := @sum_waterfall α cap d.2 l hd
      rw [List.map_cons, List.sum_cons]
      have hmap : (waterfall cap d.2 l).map ((·.2.2) ∘ fun w => (d.1, w.1, w.2)) =
          (waterfall cap d.2 l).map Prod.snd := rfl
      rw [hmap, hfirst]
      omega

/-- A demand draws on a source once. -/
lemma serve_nodup (hl : l.Nodup) (hkeys : (demands.map Prod.fst).Nodup) :
    ((serve cap demands l).map fun w => (w.1, w.2.1)).Nodup := by
  induction demands generalizing cap with
  | nil => simp [serve]
  | cons d demands ih =>
      rw [List.map_cons] at hkeys
      obtain ⟨hd, hkeys⟩ := List.nodup_cons.mp hkeys
      rw [serve_cons, List.map_append, List.map_map]
      refine List.nodup_append.mpr ⟨?_, ih hkeys, ?_⟩
      · have hfirst : ((waterfall cap d.2 l).map Prod.fst).Nodup :=
          hl.sublist (waterfall_sublist d.2 l)
        have hmap : (waterfall cap d.2 l).map ((fun w => (w.1, w.2.1)) ∘ fun w => (d.1, w.1, w.2)) =
            ((waterfall cap d.2 l).map Prod.fst).map (Prod.mk d.1) := by
          rw [List.map_map]
          rfl
        rw [hmap]
        exact hfirst.map fun _ _ h => congrArg Prod.snd h
      · rintro x hx _ hy rfl
        obtain ⟨w, -, rfl⟩ := List.mem_map.mp hx
        obtain ⟨w', hw', heq⟩ := List.mem_map.mp hy
        have hkey : w'.1 = d.1 := congrArg Prod.fst heq
        exact hd (hkey ▸ (serve_bounds hw').1)

/-- Exhausted sources serve no one. -/
lemma serve_eq_nil (h : ∀ a ∈ l, cap a ≤ 0) : serve cap demands l = [] := by
  induction demands generalizing cap with
  | nil => rfl
  | cons d demands ih =>
      have hfirst : waterfall cap d.2 l = [] := by
        refine List.eq_nil_iff_forall_not_mem.mpr fun w hw => ?_
        obtain ⟨hw, hpos, hle⟩ := waterfall_bounds hw
        have hexhausted := h w.1 hw
        omega
      rw [serve_cons, hfirst]
      refine ih fun a ha => ?_
      rw [drawn_eq_zero (by simp)]
      simpa using h a ha

/-- **An earlier source is exhausted** when a later one is drawn from. -/
theorem drawn_serve_eq {l₁ l₂ : List α} {a b : α} (hl : (l₁ ++ a :: l₂).Nodup)
    (hcap : ∀ c ∈ l₁ ++ a :: l₂, 0 ≤ cap c)
    (ha : a ∈ (serve cap demands (l₁ ++ a :: l₂)).map (·.2.1)) (hb : b ∈ l₁) :
    drawn ((serve cap demands (l₁ ++ a :: l₂)).map Prod.snd) b = cap b := by
  have hbl : b ∈ l₁ ++ a :: l₂ := List.mem_append_left _ hb
  induction demands generalizing cap with
  | nil => simp [serve] at ha
  | cons d demands ih =>
      have hleft := @left_nonneg α cap β _ _ d hl hcap
      rw [drawn_serve_cons]
      rw [serve_cons, List.map_append, List.mem_append, List.map_map] at ha
      rcases ha with ha | ha
      · obtain ⟨l₁', l₂', heq, -, hlt⟩ := mem_waterfall_iff.mp ha
        have hfront : l₁ = l₁' := by
          have hback := (List.nodup_cons.mp (List.nodup_append.mp hl).2.1).1
          exact ((List.append_cons_inj_of_notMem
            (fun hmem => List.disjoint_of_nodup_append hl hmem List.mem_cons_self) hback).mp
              heq).1
        have hfirst := drawn_waterfall_eq hl hb (hcap b hbl) (hfront ▸ hlt.le)
        have hrest := @drawn_serve_bounds _ _ _ _ demands _ hl hleft b hbl
        omega
      · rw [ih hleft ha]
        omega

variable [DecidableEq β]

lemma served_serve_cons (hd : d.1 ∉ demands.map Prod.fst) (k : β) :
    served (serve cap (d :: demands) l) k = if k = d.1
      then ((waterfall cap d.2 l).map Prod.snd).sum
      else served (serve (fun a => cap a - drawn (waterfall cap d.2 l) a) demands l) k := by
  unfold served
  rw [serve_cons, total_append]
  split
  next heq =>
    subst heq
    have hrest : served (serve (fun a => cap a - drawn (waterfall cap d.2 l) a) demands l) d.1 =
        0 := by
      refine served_eq_zero fun h => ?_
      obtain ⟨w, hw, heq⟩ := List.mem_map.mp h
      exact hd (heq ▸ (serve_bounds hw).1)
    unfold served at hrest
    rw [hrest, add_zero]
    unfold total
    rw [List.map_map]
    refine congrArg _ (List.map_congr_left fun w _ => ?_)
    simp
  next hne =>
    rw [total_eq_zero, zero_add]
    intro w hw
    obtain ⟨w', -, rfl⟩ := List.mem_map.mp hw
    exact decide_eq_false fun heq => hne heq.symm

/-- No demand is given more than it asks for. -/
lemma served_serve_le (hkeys : (demands.map Prod.fst).Nodup) (hdemands : ∀ d ∈ demands, 0 ≤ d.2)
    (hd : d ∈ demands) : served (serve cap demands l) d.1 ≤ d.2 := by
  induction demands generalizing cap with
  | nil => cases hd
  | cons e demands ih =>
      rw [List.map_cons] at hkeys
      obtain ⟨he, hkeys⟩ := List.nodup_cons.mp hkeys
      rw [served_serve_cons he]
      rcases List.mem_cons.mp hd with rfl | hd
      · rw [if_pos rfl]
        exact sum_waterfall_le (hdemands d List.mem_cons_self)
      · have hne : d.1 ≠ e.1 := fun heq => he (heq ▸ List.mem_map_of_mem hd)
        rw [if_neg hne]
        exact ih hkeys (fun x hx => hdemands x (List.mem_cons_of_mem _ hx)) hd

/-- **While a demand is not met, every source is exhausted.** -/
theorem drawn_serve_eq_of_lt (hl : l.Nodup) (hcap : ∀ a ∈ l, 0 ≤ cap a)
    (hkeys : (demands.map Prod.fst).Nodup) (hdemands : ∀ d ∈ demands, 0 ≤ d.2) (hd : d ∈ demands)
    (hlt : served (serve cap demands l) d.1 < d.2) {a : α} (ha : a ∈ l) :
    drawn ((serve cap demands l).map Prod.snd) a = cap a := by
  induction demands generalizing cap with
  | nil => cases hd
  | cons e demands ih =>
      rw [List.map_cons] at hkeys
      obtain ⟨he, hkeys⟩ := List.nodup_cons.mp hkeys
      have hleft := @left_nonneg α cap β _ _ e hl hcap
      rw [drawn_serve_cons]
      rw [served_serve_cons he] at hlt
      rcases List.mem_cons.mp hd with rfl | hd
      · rw [if_pos rfl, sum_waterfall (hdemands d List.mem_cons_self)] at hlt
        have hfirst : drawn (waterfall cap d.2 l) a = cap a := by
          have hall := @drawn_waterfall_eq α cap _ d.2 l [] (by rwa [List.append_nil]) a ha
            (hcap a ha) (by omega)
          rwa [List.append_nil] at hall
        have hrest := @drawn_serve_bounds _ _ _ _ demands _ hl hleft a ha
        omega
      · have hne : d.1 ≠ e.1 := fun heq => he (heq ▸ List.mem_map_of_mem hd)
        rw [if_neg hne] at hlt
        rw [ih hleft hkeys (fun x hx => hdemands x (List.mem_cons_of_mem _ hx)) hd hlt]
        omega

/-- **An earlier demand is met** when a later one is served. -/
theorem served_serve_eq {demands₁ demands₂ : List (β × ℤ)} {e : β × ℤ} (hl : l.Nodup)
    (hcap : ∀ a ∈ l, 0 ≤ cap a)
    (hkeys : ((demands₁ ++ e :: demands₂).map Prod.fst).Nodup)
    (hdemands : ∀ d ∈ demands₁ ++ e :: demands₂, 0 ≤ d.2)
    (he : e.1 ∈ (serve cap (demands₁ ++ e :: demands₂) l).map Prod.fst) (hd : d ∈ demands₁) :
    served (serve cap (demands₁ ++ e :: demands₂) l) d.1 = d.2 := by
  induction demands₁ generalizing cap with
  | nil => cases hd
  | cons c demands₁ ih =>
      rw [List.cons_append] at hkeys hdemands he ⊢
      rw [List.map_cons] at hkeys
      obtain ⟨hc, hkeys⟩ := List.nodup_cons.mp hkeys
      have hnonneg := hdemands c List.mem_cons_self
      have hec : e.1 ≠ c.1 := fun heq =>
        hc (heq ▸ List.mem_map_of_mem (List.mem_append_right _ List.mem_cons_self))
      -- the later demand is served from what the first one leaves
      have hlater : e.1 ∈ (serve (fun a => cap a - drawn (waterfall cap c.2 l) a)
          (demands₁ ++ e :: demands₂) l).map Prod.fst := by
        rw [serve_cons, List.map_append, List.mem_append, List.map_map] at he
        refine he.resolve_left fun hfirst => hec ?_
        obtain ⟨w, -, heq⟩ := List.mem_map.mp hfirst
        exact heq.symm
      rw [served_serve_cons hc]
      rcases List.mem_cons.mp hd with rfl | hd
      · rw [if_pos rfl, sum_waterfall hnonneg]
        by_contra hne
        have hexhausted : serve (fun a => cap a - drawn (waterfall cap d.2 l) a)
            (demands₁ ++ e :: demands₂) l = [] := by
          refine serve_eq_nil fun a ha => ?_
          have hall := @drawn_waterfall_eq α cap _ d.2 l [] (by rwa [List.append_nil]) a ha
            (hcap a ha) (by omega)
          rw [List.append_nil] at hall
          omega
        rw [hexhausted] at hlater
        cases hlater
      · have hdc : d.1 ≠ c.1 := fun heq =>
          hc (heq ▸ List.mem_map_of_mem (List.mem_append_left _ hd))
        rw [if_neg hdc]
        exact ih (left_nonneg hl hcap) hkeys (fun x hx => hdemands x (List.mem_cons_of_mem _ hx))
          hlater hd

end Demands

end Serve

end VendorDashboard.Waterfall

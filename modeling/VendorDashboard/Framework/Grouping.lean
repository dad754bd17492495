import Mathlib.Algebra.BigOperators.Group.List.Basic
import Mathlib.Data.List.Induction
import Mathlib.Data.List.Nodup
import Mathlib.Data.List.Perm.Basic

/-!
# Groups and totals by a key

`groups l` collects the values of a list under their keys, in the order in which the keys first
occur, and `addTo` keeps one running total per key in the same order.  Each key has one group, which
holds what the list holds under it (`mem_groups`), so nothing but the order of groups and of their
values depends on the order of the list.
-/

namespace VendorDashboard.Grouping

universe u v

variable {κ : Type u} {α : Type v} [DecidableEq κ]

/-! ## Lists of keys and values -/

/-- The values under a key. -/
def valuesAt (key : κ) (l : List (κ × α)) : List α := (l.filter (·.1 = key)).map (·.2)

@[simp] lemma valuesAt_nil (key : κ) : valuesAt key ([] : List (κ × α)) = [] := rfl

lemma valuesAt_cons (key : κ) (p : κ × α) (l : List (κ × α)) :
    valuesAt key (p :: l) = if p.1 = key then p.2 :: valuesAt key l else valuesAt key l := by
  unfold valuesAt
  by_cases h : p.1 = key
  · rw [if_pos h, List.filter_cons_of_pos (by simpa using h), List.map_cons]
  · rw [if_neg h, List.filter_cons_of_neg (by simpa using h)]

lemma valuesAt_append (key : κ) (l m : List (κ × α)) :
    valuesAt key (l ++ m) = valuesAt key l ++ valuesAt key m := by
  simp only [valuesAt, List.filter_append, List.map_append]

lemma valuesAt_perm {l m : List (κ × α)} (h : l.Perm m) (key : κ) :
    (valuesAt key l).Perm (valuesAt key m) := (h.filter _).map _

lemma mem_valuesAt {key : κ} {x : α} {l : List (κ × α)} : x ∈ valuesAt key l ↔ (key, x) ∈ l := by
  unfold valuesAt
  simp only [List.mem_map, List.mem_filter, decide_eq_true_eq]
  constructor
  · rintro ⟨⟨k, y⟩, ⟨hmem, rfl⟩, rfl⟩
    exact hmem
  · intro hmem
    exact ⟨(key, x), ⟨hmem, rfl⟩, rfl⟩

lemma valuesAt_eq_nil {key : κ} {l : List (κ × α)} : valuesAt key l = [] ↔ key ∉ l.map Prod.fst := by
  rw [List.eq_nil_iff_forall_not_mem]
  simp only [mem_valuesAt, List.mem_map, Prod.exists, exists_and_right, exists_eq_right, not_exists]

/-- With one value under each key, looking a key up finds the value that is there. -/
lemma lookup_eq_some_iff_mem {l : List (κ × α)} (hkeys : (l.map Prod.fst).Nodup) {key : κ} {x : α} :
    l.lookup key = some x ↔ (key, x) ∈ l := by
  induction l with
  | nil => simp
  | cons p l ih =>
      obtain ⟨k, y⟩ := p
      rw [List.map_cons, List.nodup_cons] at hkeys
      by_cases hk : key = k
      · subst hk
        rw [List.lookup_cons_self, List.mem_cons]
        constructor
        · intro h
          rw [Option.some.inj h]
          exact Or.inl rfl
        · rintro (h | h)
          · rw [(Prod.mk.inj h).2]
          · exact absurd (List.mem_map_of_mem (f := Prod.fst) h) hkeys.1
      · have hne : (key == k) = false := by simpa using hk
        rw [List.lookup_cons, hne, ih hkeys.2, List.mem_cons]
        constructor
        · exact Or.inr
        · rintro (h | h)
          · exact absurd (Prod.mk.inj h).1 hk
          · exact h

lemma lookup_eq_of_perm {l m : List (κ × α)} (h : l.Perm m) (hkeys : (l.map Prod.fst).Nodup)
    (key : κ) : l.lookup key = m.lookup key := by
  have hkeys' : (m.map Prod.fst).Nodup := (h.map _).nodup_iff.mp hkeys
  refine Option.ext fun x => ?_
  rw [lookup_eq_some_iff_mem hkeys, lookup_eq_some_iff_mem hkeys', h.mem_iff]

/-! ## Groups -/

/-- `groups.set(key, [...(groups.get(key) ?? []), x])`. -/
def insertGroup (key : κ) (x : α) : List (κ × List α) → List (κ × List α)
  | [] => [(key, [x])]
  | (k, xs) :: gs => if k = key then (k, xs ++ [x]) :: gs else (k, xs) :: insertGroup key x gs

def groups (l : List (κ × α)) : List (κ × List α) :=
  l.foldl (fun gs p => insertGroup p.1 p.2 gs) []

lemma groups_concat (l : List (κ × α)) (p : κ × α) :
    groups (l ++ [p]) = insertGroup p.1 p.2 (groups l) := by
  simp only [groups, List.foldl_append, List.foldl_cons, List.foldl_nil]

/-- A new value goes to the group of its key, or opens one. -/
lemma insertGroup_keys (key : κ) (x : α) (gs : List (κ × List α)) :
    (insertGroup key x gs).map Prod.fst =
      if key ∈ gs.map Prod.fst then gs.map Prod.fst else gs.map Prod.fst ++ [key] := by
  induction gs with
  | nil => simp [insertGroup]
  | cons g gs ih =>
      obtain ⟨k, xs⟩ := g
      unfold insertGroup
      by_cases hk : k = key
      · rw [if_pos hk, if_pos (by simp [hk]), List.map_cons, List.map_cons]
      · rw [if_neg hk, List.map_cons, ih, List.map_cons]
        by_cases hmem : key ∈ gs.map Prod.fst
        · rw [if_pos hmem, if_pos (List.mem_cons_of_mem _ hmem)]
        · rw [if_neg hmem, if_neg (by simpa [Ne.symm hk] using hmem), List.cons_append]

lemma insertGroup_nodup {key : κ} {x : α} {gs : List (κ × List α)}
    (h : (gs.map Prod.fst).Nodup) : ((insertGroup key x gs).map Prod.fst).Nodup := by
  rw [insertGroup_keys]
  split
  · exact h
  · rename_i hmem
    rw [List.nodup_append]
    exact ⟨h, List.nodup_singleton _, fun a ha b hb hab => hmem (List.mem_singleton.mp hb ▸ hab ▸ ha)⟩

lemma mem_insertGroup {key k : κ} {x : α} {xs : List α} {gs : List (κ × List α)}
    (h : (gs.map Prod.fst).Nodup) : (k, xs) ∈ insertGroup key x gs ↔
      if k = key then xs = (gs.lookup key).getD [] ++ [x] else (k, xs) ∈ gs := by
  induction gs with
  | nil =>
      simp only [insertGroup, List.mem_singleton, Prod.mk.injEq, List.lookup_nil, Option.getD_none,
        List.nil_append]
      by_cases hk : k = key <;> simp [hk]
  | cons g gs ih =>
      obtain ⟨k', ys⟩ := g
      rw [List.map_cons, List.nodup_cons] at h
      have hfresh : ∀ zs, (k', zs) ∉ gs := fun zs hmem =>
        h.1 (List.mem_map.mpr ⟨_, hmem, rfl⟩)
      unfold insertGroup
      by_cases hk' : k' = key
      · subst hk'
        rw [if_pos rfl, List.mem_cons, List.lookup_cons_self, Option.getD_some, List.mem_cons]
        by_cases hk : k = k'
        · subst hk
          simp [hfresh]
        · simp [hk]
      · have hne : (key == k') = false := by simpa using Ne.symm hk'
        rw [if_neg hk', List.mem_cons, ih h.2, List.lookup_cons, hne]
        by_cases hk : k = key
        · subst hk
          simp [Ne.symm hk']
        · simp [hk]

lemma groups_keys_nodup (l : List (κ × α)) : ((groups l).map Prod.fst).Nodup := by
  induction l using List.reverseRecOn with
  | nil => exact List.nodup_nil
  | append_singleton l p ih =>
      rw [groups_concat]
      exact insertGroup_nodup ih

/-- The groups are what the list holds under each of its keys. -/
theorem mem_groups {k : κ} {xs : List α} {l : List (κ × α)} :
    (k, xs) ∈ groups l ↔ xs = valuesAt k l ∧ xs ≠ [] := by
  induction l using List.reverseRecOn generalizing k xs with
  | nil => simp [groups]
  | append_singleton l p ih =>
      rw [groups_concat, mem_insertGroup (groups_keys_nodup l), valuesAt_append, valuesAt_cons,
        valuesAt_nil]
      by_cases hk : k = p.1
      · have hlookup : ((groups l).lookup p.1).getD [] = valuesAt p.1 l := by
          cases hfound : (groups l).lookup p.1 with
          | none =>
              by_contra hne
              have hmem := ih (k := p.1).mpr ⟨rfl, Ne.symm hne⟩
              rw [← lookup_eq_some_iff_mem (groups_keys_nodup l), hfound] at hmem
              cases hmem
          | some ys =>
              rw [lookup_eq_some_iff_mem (groups_keys_nodup l), ih] at hfound
              exact hfound.1
        subst hk
        rw [if_pos rfl, if_pos rfl, hlookup]
        exact ⟨fun h => ⟨h, by simp [h]⟩, fun h => h.1⟩
      · rw [if_neg hk, if_neg (Ne.symm hk), List.append_nil]
        exact ih

lemma mem_groups_keys {k : κ} {l : List (κ × α)} :
    k ∈ (groups l).map Prod.fst ↔ k ∈ l.map Prod.fst := by
  rw [List.mem_map]
  constructor
  · rintro ⟨⟨k', xs⟩, hmem, rfl⟩
    obtain ⟨rfl, hne⟩ := mem_groups.mp hmem
    by_contra hnone
    exact hne (valuesAt_eq_nil.mpr hnone)
  · intro hmem
    have hne : valuesAt k l ≠ [] := fun hnil => valuesAt_eq_nil.mp hnil hmem
    exact ⟨(k, valuesAt k l), mem_groups.mpr ⟨rfl, hne⟩, rfl⟩

/-- Taken apart again, groups are the list up to its order. -/
theorem groups_flatten_perm (l : List (κ × α)) :
    ((groups l).flatMap fun g => g.2.map fun x => (g.1, x)).Perm l := by
  have hinsert : ∀ (key : κ) (x : α) (gs : List (κ × List α)),
      ((insertGroup key x gs).flatMap fun g => g.2.map fun y => (g.1, y)).Perm
        ((gs.flatMap fun g => g.2.map fun y => (g.1, y)) ++ [(key, x)]) := by
    intro key x gs
    induction gs with
    | nil => exact List.Perm.refl _
    | cons g gs ih =>
        obtain ⟨k, xs⟩ := g
        unfold insertGroup
        by_cases hk : k = key
        · subst hk
          rw [if_pos rfl, List.flatMap_cons, List.flatMap_cons, List.map_append, List.map_singleton,
            List.append_assoc, List.append_assoc]
          exact (@List.perm_append_comm _ [(k, x)] _).append_left _
        · rw [if_neg hk, List.flatMap_cons, List.flatMap_cons, List.append_assoc]
          exact ih.append_left _
  induction l using List.reverseRecOn with
  | nil => exact List.Perm.refl _
  | append_singleton l p ih =>
      rw [groups_concat]
      exact (hinsert p.1 p.2 (groups l)).trans (ih.append_right _)

/-! ## Totals -/

section Totals

variable {M : Type v} [AddCommMonoid M]

/-- `totals.set(key, (totals.get(key) ?? 0) + x)`. -/
def addTo (key : κ) (x : M) : List (κ × M) → List (κ × M)
  | [] => [(key, x)]
  | (k, total) :: totals =>
      if k = key then (k, total + x) :: totals else (k, total) :: addTo key x totals

def totals (l : List (κ × M)) : List (κ × M) := l.foldl (fun sums p => addTo p.1 p.2 sums) []

/-- The total under a key. -/
def totalAt (key : κ) (l : List (κ × M)) : M := (valuesAt key l).sum

lemma totalAt_perm {l m : List (κ × M)} (h : l.Perm m) (key : κ) : totalAt key l = totalAt key m :=
  (valuesAt_perm h key).sum_eq

/-- Totals are those of the groups. -/
lemma totals_eq (l : List (κ × M)) : totals l = (groups l).map fun g => (g.1, g.2.sum) := by
  have hinsert : ∀ (key : κ) (x : M) (gs : List (κ × List M)),
      addTo key x (gs.map fun g => (g.1, g.2.sum)) =
        (insertGroup key x gs).map fun g => (g.1, g.2.sum) := by
    intro key x gs
    induction gs with
    | nil => simp [addTo, insertGroup]
    | cons g gs ih =>
        obtain ⟨k, xs⟩ := g
        rw [List.map_cons]
        unfold addTo insertGroup
        by_cases hk : k = key
        · rw [if_pos hk, if_pos hk, List.map_cons, List.sum_append, List.sum_singleton]
        · rw [if_neg hk, if_neg hk, List.map_cons, ih]
  induction l using List.reverseRecOn with
  | nil => rfl
  | append_singleton l p ih =>
      rw [groups_concat, ← hinsert, ← ih]
      simp only [totals, List.foldl_append, List.foldl_cons, List.foldl_nil]

lemma totals_keys_nodup (l : List (κ × M)) : ((totals l).map Prod.fst).Nodup := by
  rw [totals_eq, List.map_map]
  exact groups_keys_nodup l

theorem mem_totals {k : κ} {x : M} {l : List (κ × M)} :
    (k, x) ∈ totals l ↔ k ∈ l.map Prod.fst ∧ x = totalAt k l := by
  rw [totals_eq, List.mem_map]
  constructor
  · rintro ⟨⟨k', xs⟩, hmem, heq⟩
    obtain ⟨rfl, rfl⟩ := Prod.mk.inj heq
    have hkey := mem_groups_keys.mp (List.mem_map_of_mem (f := Prod.fst) hmem)
    rw [(mem_groups.mp hmem).1]
    exact ⟨hkey, rfl⟩
  · rintro ⟨hmem, rfl⟩
    have hne : valuesAt k l ≠ [] := fun hnil => valuesAt_eq_nil.mp hnil hmem
    exact ⟨(k, valuesAt k l), mem_groups.mpr ⟨rfl, hne⟩, rfl⟩

/-- Totals agree up to their order exactly when the keys and the totals under them do. -/
theorem totals_perm_iff {l m : List (κ × M)} : (totals l).Perm (totals m) ↔
    (∀ k, k ∈ l.map Prod.fst ↔ k ∈ m.map Prod.fst) ∧ ∀ k, totalAt k l = totalAt k m := by
  have hnodup : ∀ n : List (κ × M), (totals n).Nodup := fun n => (totals_keys_nodup n).of_map _
  rw [List.perm_ext_iff_of_nodup (hnodup l) (hnodup m)]
  constructor
  · intro h
    have hkeys : ∀ k, k ∈ l.map Prod.fst ↔ k ∈ m.map Prod.fst := by
      intro k
      constructor
      · intro hk
        exact (mem_totals.mp ((h (k, totalAt k l)).mp (mem_totals.mpr ⟨hk, rfl⟩))).1
      · intro hk
        exact (mem_totals.mp ((h (k, totalAt k m)).mpr (mem_totals.mpr ⟨hk, rfl⟩))).1
    refine ⟨hkeys, fun k => ?_⟩
    by_cases hk : k ∈ l.map Prod.fst
    · exact (mem_totals.mp ((h (k, totalAt k l)).mp (mem_totals.mpr ⟨hk, rfl⟩))).2
    · have hm : k ∉ m.map Prod.fst := fun hmem => hk ((hkeys k).mpr hmem)
      unfold totalAt
      rw [valuesAt_eq_nil.mpr hk, valuesAt_eq_nil.mpr hm]
  · rintro ⟨hkeys, htotals⟩ ⟨k, x⟩
    rw [mem_totals, mem_totals, hkeys k, htotals k]

end Totals

end VendorDashboard.Grouping

import Mathlib.Data.List.Perm.Basic
import Mathlib.Data.List.Sort

/-!
# Lists that agree up to their order

`Reordered R l m` says that the elements of `m` are those of `l` in another order, up to a relation
between elements.  With a relation that is itself a reordering it describes nested lists.  What a
function reads off the elements is reordered accordingly (`Reordered.map`, `Reordered.filter`,
`Reordered.flatMap`).
-/

namespace VendorDashboard.Reordering

universe u v w

variable {α : Type u} {β : Type v} {γ : Type w} {δ : Type*}

/-- The elements of `m` are those of `l` up to `R`, in any order. -/
def Reordered (R : α → β → Prop) (l : List α) (m : List β) : Prop :=
  ∃ k, l.Perm k ∧ List.Forall₂ R k m

namespace Reordered

variable {R : α → β → Prop} {S : γ → δ → Prop} {l : List α} {m : List β}

lemma of_forall₂ (h : List.Forall₂ R l m) : Reordered R l m := ⟨l, List.Perm.refl l, h⟩

lemma of_perm {R : α → α → Prop} (hR : ∀ a, R a a) {l m : List α} (h : l.Perm m) :
    Reordered R l m := ⟨m, h, List.forall₂_same.mpr fun a _ => hR a⟩

/-- Reorderings of equal elements are permutations. -/
lemma perm_of_eq {l m : List α} (h : Reordered (· = ·) l m) : l.Perm m := by
  obtain ⟨k, hperm, heq⟩ := h
  rw [List.forall₂_eq_eq_eq] at heq
  exact heq ▸ hperm

lemma symm (h : Reordered R l m) : Reordered (flip R) m l := by
  obtain ⟨k, hperm, hrel⟩ := h
  obtain ⟨k', hrel', hperm'⟩ := List.perm_comp_forall₂ hperm hrel
  exact ⟨k', hperm'.symm, hrel'.flip⟩

lemma imp {R' : α → β → Prop} (hR : ∀ a b, R a b → R' a b) (h : Reordered R l m) :
    Reordered R' l m := by
  obtain ⟨k, hperm, hrel⟩ := h
  exact ⟨k, hperm, hrel.imp hR⟩

/-- Every element of the one list is related to one of the other. -/
lemma exists_left (h : Reordered R l m) {b : β} (hb : b ∈ m) : ∃ a ∈ l, R a b := by
  obtain ⟨k, hperm, hrel⟩ := h
  have hexists : ∃ a ∈ k, R a b := by
    clear hperm
    induction hrel with
    | nil => cases hb
    | cons hab _ ih =>
        rcases List.mem_cons.mp hb with rfl | hb
        · exact ⟨_, List.mem_cons_self, hab⟩
        · obtain ⟨a, ha, hR⟩ := ih hb
          exact ⟨a, List.mem_cons_of_mem _ ha, hR⟩
  obtain ⟨a, ha, hR⟩ := hexists
  exact ⟨a, hperm.mem_iff.mpr ha, hR⟩

lemma exists_right (h : Reordered R l m) {a : α} (ha : a ∈ l) : ∃ b ∈ m, R a b :=
  h.symm.exists_left ha

lemma map {f : α → γ} {g : β → δ} (h : Reordered R l m)
    (hfg : ∀ a b, R a b → S (f a) (g b)) : Reordered S (l.map f) (m.map g) := by
  obtain ⟨k, hperm, hrel⟩ := h
  refine ⟨k.map f, hperm.map f, ?_⟩
  rw [List.forall₂_map_left_iff, List.forall₂_map_right_iff]
  exact hrel.imp hfg

lemma filter {p : α → Bool} {q : β → Bool} (h : Reordered R l m)
    (hpq : ∀ a b, R a b → p a = q b) : Reordered R (l.filter p) (m.filter q) := by
  obtain ⟨k, hperm, hrel⟩ := h
  refine ⟨k.filter p, hperm.filter p, ?_⟩
  clear hperm
  induction hrel with
  | nil => exact List.Forall₂.nil
  | @cons a b k m hab _ ih =>
      cases hp : p a with
      | true =>
          rw [List.filter_cons_of_pos hp, List.filter_cons_of_pos ((hpq a b hab).symm.trans hp)]
          exact ih.cons hab
      | false =>
          have hq : ¬ q b = true := by simp [(hpq a b hab).symm.trans hp]
          rw [List.filter_cons_of_neg (by simp [hp]), List.filter_cons_of_neg hq]
          exact ih

/-- What a partial function reads off the elements, up to its order. -/
lemma filterMap {f : α → Option γ} {g : β → Option δ} (h : Reordered R l m)
    (hfg : ∀ a b, R a b → Option.Rel S (f a) (g b)) :
    Reordered S (l.filterMap f) (m.filterMap g) := by
  obtain ⟨k, hperm, hrel⟩ := h
  refine ⟨k.filterMap f, hperm.filterMap f, ?_⟩
  clear hperm
  induction hrel with
  | nil => exact List.Forall₂.nil
  | @cons a b k m hab _ ih =>
      have hread := hfg a b hab
      cases hf : f a with
      | none =>
          cases hg : g b with
          | none => rwa [List.filterMap_cons_none hf, List.filterMap_cons_none hg]
          | some d =>
              rw [hf, hg] at hread
              cases hread
      | some c =>
          cases hg : g b with
          | none =>
              rw [hf, hg] at hread
              cases hread
          | some d =>
              rw [hf, hg, Option.rel_some_some] at hread
              rw [List.filterMap_cons_some hf, List.filterMap_cons_some hg]
              exact List.Forall₂.cons hread ih

/-- Lists read off the elements, up to their order. -/
lemma flatMap {f : α → List γ} {g : β → List γ} (h : Reordered R l m)
    (hfg : ∀ a b, R a b → (f a).Perm (g b)) : (l.flatMap f).Perm (m.flatMap g) := by
  obtain ⟨k, hperm, hrel⟩ := h
  refine (hperm.flatMap_right f).trans ?_
  clear hperm
  induction hrel with
  | nil => exact List.Perm.refl _
  | cons hab _ ih =>
      rw [List.flatMap_cons, List.flatMap_cons]
      exact (hfg _ _ hab).append ih

/-- Values read off the elements, up to their order. -/
lemma map_perm {f : α → γ} {g : β → γ} (h : Reordered R l m) (hfg : ∀ a b, R a b → f a = g b) :
    (l.map f).Perm (m.map g) :=
  (h.map (S := (· = ·)) hfg).perm_of_eq

end Reordered

/-- Sorting forgets the order of a list whose elements the order tells apart. -/
lemma insertionSort_eq_of_perm {r : α → α → Prop} [DecidableRel r] (htotal : ∀ a b, r a b ∨ r b a)
    (htrans : ∀ a b c, r a b → r b c → r a c) {l m : List α} (h : l.Perm m)
    (hantisymm : ∀ a ∈ l, ∀ b ∈ l, r a b → r b a → a = b) :
    l.insertionSort r = m.insertionSort r := by
  have _ : Std.Total r := ⟨htotal⟩
  have _ : IsTrans α r := ⟨htrans⟩
  have hl := List.perm_insertionSort r l
  have hm := List.perm_insertionSort r m
  refine @List.Perm.eq_of_pairwise _ r _ _ ?_ (List.pairwise_insertionSort _ l)
    (List.pairwise_insertionSort _ m) (hl.trans (h.trans hm.symm))
  intro a b ha hb hab hba
  exact hantisymm a (hl.mem_iff.mp ha) b (h.mem_iff.mpr (hm.mem_iff.mp hb)) hab hba

/-- Where `f` tells the elements of `l` apart as `R` tells those of `m`, lists in one order on the one
side are in one order on the other. -/
theorem perm_iff_of_forall₂ {R : α → β → Prop} {f : α → γ}
    (hR : ∀ a b a' b', R a b → R a' b' → (b = b' ↔ f a = f a')) {l l' : List α} {m m' : List β}
    (h : List.Forall₂ R l m) (h' : List.Forall₂ R l' m') :
    m.Perm m' ↔ (l.map f).Perm (l'.map f) := by
  have hnames : ∀ {k : List α} {n : List β}, List.Forall₂ R k n →
      List.Forall₂ (fun b c => ∃ a, R a b ∧ f a = c) n (k.map f) := by
    intro k n hkn
    rw [List.forall₂_map_right_iff]
    exact hkn.flip.imp fun b a hab => ⟨a, hab, rfl⟩
  refine List.rel_perm ⟨?_, ?_⟩ (hnames h) (hnames h')
  · rintro b b' c ⟨a, hab, rfl⟩ ⟨a', hab', haa'⟩
    exact (hR _ _ _ _ hab hab').mpr haa'.symm
  · rintro b c c' ⟨a, hab, rfl⟩ ⟨a', hab', rfl⟩
    exact (hR _ _ _ _ hab hab').mp rfl

end VendorDashboard.Reordering

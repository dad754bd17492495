import Mathlib.Data.List.Basic
import Mathlib.Logic.Basic

/-!
# Transactions that either fail or commit a new state

A database transaction is an `Except ε σ`: `throw` is a rollback (the old state survives, the
caller sees the error), `ok` is a commit.  The combinators here keep every guard of such a
transaction visible to a proof: `require` is a guard, `getOrThrow` a lookup that must succeed,
and `foldlM` a loop that may roll back in the middle.

Each combinator comes with the equivalence that reads a committed run backwards
(`require_eq_ok`, `getOrThrow_eq_ok`, `bind_eq_ok`), so a transaction is taken apart by
rewriting, never by unfolding the monad.
-/

namespace VendorDashboard.Transaction

universe u v w

variable {ε : Type u} {σ β γ : Type v} {α : Type w}

/-- A guard: roll back with `e` unless `p` holds. -/
def require (p : Prop) [Decidable p] (e : ε) : Except ε Unit :=
  if p then .ok () else .error e

/-- A lookup that must succeed: roll back with `e` on a missing row. -/
def getOrThrow (o : Option α) (e : ε) : Except ε α :=
  match o with
  | some a => .ok a
  | none => .error e

@[simp] lemma require_eq_ok {p : Prop} [Decidable p] {e : ε} {u : Unit} :
    require p e = .ok u ↔ p := by
  unfold require
  split <;> simp [*]

@[simp] lemma getOrThrow_eq_ok {o : Option α} {e : ε} {a : α} :
    getOrThrow o e = .ok a ↔ o = some a := by
  cases o <;> simp [getOrThrow]

@[simp] lemma bind_eq_ok {x : Except ε β} {f : β → Except ε γ} {c : γ} :
    (x >>= f) = .ok c ↔ ∃ b, x = .ok b ∧ f b = .ok c := by
  cases x <;> simp [bind, Except.bind]

@[simp] lemma pure_eq_ok {a b : α} : (pure a : Except ε α) = .ok b ↔ a = b := by
  simp [pure, Except.pure]

lemma toOption_eq_some {x : Except ε σ} {s : σ} : x.toOption = some s ↔ x = .ok s := by
  cases x <;> simp [Except.toOption]

/-! ## Outcomes -/

/-- The transaction commits in a state with `P`. -/
def Succeeds (x : Except ε σ) (P : σ → Prop) : Prop :=
  match x with
  | .ok s => P s
  | .error _ => False

instance (x : Except ε σ) (P : σ → Prop) [DecidablePred P] : Decidable (Succeeds x P) :=
  match x with
  | .ok s => inferInstanceAs (Decidable (P s))
  | .error _ => inferInstanceAs (Decidable False)

lemma succeeds_iff {x : Except ε σ} {P : σ → Prop} : Succeeds x P ↔ ∃ s, x = .ok s ∧ P s := by
  cases x <;> simp [Succeeds]

/-! ## Loops -/

@[simp] lemma foldlM_nil_eq_ok {f : σ → α → Except ε σ} {s s' : σ} :
    ([] : List α).foldlM f s = .ok s' ↔ s = s' := by
  rw [List.foldlM_nil, pure_eq_ok]

@[simp] lemma foldlM_cons_eq_ok {f : σ → α → Except ε σ} {s s' : σ} {a : α} {l : List α} :
    (a :: l).foldlM f s = .ok s' ↔ ∃ t, f s a = .ok t ∧ l.foldlM f t = .ok s' := by
  rw [List.foldlM_cons, bind_eq_ok]

/-- A check of every element passes exactly when each element passes it. -/
lemma forM_eq_ok {f : α → Except ε PUnit} {l : List α} {u : PUnit} :
    l.forM f = .ok u ↔ ∀ a ∈ l, f a = .ok u := by
  induction l with
  | nil => exact ⟨fun _ a ha => by simp at ha, fun _ => rfl⟩
  | cons a l ih =>
      change (f a >>= fun _ => l.forM f) = .ok u ↔ _
      rw [bind_eq_ok, List.forall_mem_cons]
      constructor
      · rintro ⟨b, hb, hl⟩
        exact ⟨hb, ih.mp hl⟩
      · rintro ⟨ha, hl⟩
        exact ⟨u, ha, ih.mpr hl⟩

/-- A property that every iteration preserves survives a loop that commits. -/
theorem foldlM_preserves {f : σ → α → Except ε σ} {P : σ → Prop} {l : List α}
    (hstep : ∀ s a t, a ∈ l → P s → f s a = .ok t → P t) :
    ∀ {s s'}, P s → l.foldlM f s = .ok s' → P s' := by
  induction l with
  | nil =>
      intro s s' hs h
      obtain rfl := foldlM_nil_eq_ok.mp h
      exact hs
  | cons a l ih =>
      intro s s' hs h
      obtain ⟨t, hat, hl⟩ := foldlM_cons_eq_ok.mp h
      exact ih (fun s b t hb => hstep s b t (List.mem_cons_of_mem _ hb))
        (hstep s a t List.mem_cons_self hs hat) hl

/-- A quantity that no iteration changes is unchanged by the loop. -/
lemma foldlM_const {f : σ → α → Except ε σ} {g : σ → β} {l : List α}
    (hstep : ∀ s a t, a ∈ l → f s a = .ok t → g t = g s) {s s' : σ}
    (h : l.foldlM f s = .ok s') : g s' = g s :=
  foldlM_preserves (P := fun t => g t = g s)
    (fun s₁ a t ha hs hat => (hstep s₁ a t ha hat).trans hs) rfl h

/-- A loop whose guards look at what was met before.  It commits exactly when all elements pass
their guards in the first state and agree with each other in pairs. -/
theorem foldlM_guarded {step : σ → α → Except ε σ} {P : σ → α → Prop} {R : α → α → Prop}
    {f : σ → α → σ} (hstep : ∀ s a t, step s a = .ok t ↔ P s a ∧ t = f s a)
    (hnext : ∀ s a b, P s a → (P (f s a) b ↔ P s b ∧ R a b)) {l : List α} {s s' : σ} :
    l.foldlM step s = .ok s' ↔ (∀ a ∈ l, P s a) ∧ l.Pairwise R ∧ s' = l.foldl f s := by
  induction l generalizing s with
  | nil =>
      rw [foldlM_nil_eq_ok]
      exact ⟨fun h => ⟨fun a ha => by simp at ha, List.Pairwise.nil, h.symm⟩,
        fun h => h.2.2.symm⟩
  | cons a l ih =>
      simp only [foldlM_cons_eq_ok, hstep, List.forall_mem_cons, List.pairwise_cons,
        List.foldl_cons]
      constructor
      · rintro ⟨t, ⟨ha, rfl⟩, hl⟩
        obtain ⟨hP, hR, rfl⟩ := ih.mp hl
        exact ⟨⟨ha, fun b hb => ((hnext s a b ha).mp (hP b hb)).1⟩,
          ⟨fun b hb => ((hnext s a b ha).mp (hP b hb)).2, hR⟩, rfl⟩
      · rintro ⟨⟨ha, hP⟩, ⟨hab, hR⟩, rfl⟩
        exact ⟨_, ⟨ha, rfl⟩,
          ih.mpr ⟨fun b hb => (hnext s a b ha).mpr ⟨hP b hb, hab b hb⟩, hR, rfl⟩⟩

/-- A loop whose guards look at the elements only. -/
lemma foldlM_checked {step : σ → α → Except ε σ} {P : α → Prop} {f : σ → α → σ} {l : List α}
    (hstep : ∀ a ∈ l, ∀ s t, step s a = .ok t ↔ P a ∧ t = f s a) {s s' : σ} :
    l.foldlM step s = .ok s' ↔ (∀ a ∈ l, P a) ∧ s' = l.foldl f s := by
  induction l generalizing s with
  | nil =>
      rw [foldlM_nil_eq_ok]
      exact ⟨fun h => ⟨fun a ha => by simp at ha, h.symm⟩, fun h => h.2.symm⟩
  | cons a l ih =>
      have htail : ∀ t, l.foldlM step t = .ok s' ↔ (∀ b ∈ l, P b) ∧ s' = l.foldl f t :=
        fun t => ih fun b hb => hstep b (List.mem_cons_of_mem _ hb)
      simp only [foldlM_cons_eq_ok, hstep a List.mem_cons_self, htail, List.forall_mem_cons,
        List.foldl_cons]
      constructor
      · rintro ⟨_, ⟨ha, rfl⟩, hl, hs⟩
        exact ⟨⟨ha, hl⟩, hs⟩
      · rintro ⟨⟨ha, hl⟩, hs⟩
        exact ⟨_, ⟨ha, rfl⟩, hl, hs⟩

/-- Reading every element succeeds when each one does. -/
lemma mapM_eq_ok {f : α → Except ε γ} {l : List α} {m : List γ} :
    l.mapM f = .ok m ↔ List.Forall₂ (fun a c => f a = .ok c) l m := by
  induction l generalizing m with
  | nil =>
      rw [List.mapM_nil, pure_eq_ok]
      constructor
      · rintro rfl
        exact List.Forall₂.nil
      · intro h
        cases h
        rfl
  | cons a l ih =>
      rw [List.mapM_cons, bind_eq_ok]
      simp only [bind_eq_ok, pure_eq_ok, ih]
      constructor
      · rintro ⟨c, hc, cs, hcs, rfl⟩
        exact List.Forall₂.cons hc hcs
      · intro h
        cases h with
        | cons hc hcs => exact ⟨_, hc, _, hcs, rfl⟩

end VendorDashboard.Transaction

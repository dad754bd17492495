import VendorDashboard.Framework.Transaction

/-!
# Runs of a transition system

`Reachable init next` is the set of states a system can be in: it starts in a state of `init`
and takes any number of `next` steps.  A restricted system (only some actions, or only steps
that satisfy a condition) is the same thing with a smaller `next`, so `Reachable.mono` compares
the two.

For a system given by a transaction per action, `Commits step a` is one committed action and
`runActions` executes a whole script of actions; `reachable_of_runActions` turns an executed
script into a reachability fact, which is how a concrete state is shown to be reachable.
-/

namespace VendorDashboard.Run

open Transaction

universe u v w

variable {ε : Type u} {σ : Type v} {α : Type w}

/-- The states reachable from `init` by `next` steps. -/
inductive Reachable (init : σ → Prop) (next : σ → σ → Prop) : σ → Prop
  | start {s} : init s → Reachable init next s
  | step {s t} : Reachable init next s → next s t → Reachable init next t

namespace Reachable

variable {init : σ → Prop} {next : σ → σ → Prop}

/-- **The invariant rule.**  A property that holds initially and that every step from a
reachable state preserves holds in every reachable state. -/
theorem invariant {P : σ → Prop} (hinit : ∀ s, init s → P s)
    (hstep : ∀ s t, Reachable init next s → P s → next s t → P t) {s : σ}
    (h : Reachable init next s) : P s := by
  induction h with
  | start hs => exact hinit _ hs
  | step hr hn ih => exact hstep _ _ hr ih hn

/-- Fewer steps reach fewer states. -/
theorem mono {init' : σ → Prop} {next' : σ → σ → Prop} (hi : ∀ s, init s → init' s)
    (hn : ∀ s t, next s t → next' s t) {s : σ} (h : Reachable init next s) :
    Reachable init' next' s := by
  induction h with
  | start hs => exact .start (hi _ hs)
  | step _ hst ih => exact .step ih (hn _ _ hst)

end Reachable

/-! ## Systems given by one transaction per action -/

/-- Some action of `ok` commits and takes `s` to `t`. -/
def Commits (step : α → σ → Except ε σ) (ok : σ → α → Prop) (s t : σ) : Prop :=
  ∃ a, ok s a ∧ step a s = .ok t

/-- Execute a script of actions, rolling back at the first failure. -/
def runActions (step : α → σ → Except ε σ) (acts : List α) (s : σ) : Except ε σ :=
  acts.foldlM (fun s a => step a s) s

lemma reachable_of_runActions {init : σ → Prop} {step : α → σ → Except ε σ}
    {ok : σ → α → Prop} {acts : List α} {s t : σ} (hs : Reachable init (Commits step ok) s)
    (hok : ∀ a ∈ acts, ∀ u, ok u a) (h : runActions step acts s = .ok t) :
    Reachable init (Commits step ok) t := by
  unfold runActions at h
  refine foldlM_preserves (P := Reachable init (Commits step ok)) ?_ hs h
  intro u a v ha hu hua
  exact .step hu ⟨a, hok a ha u, hua⟩

/-- `step`, refusing the actions that do not satisfy `ok`. -/
def guarded (ok : σ → α → Prop) [∀ s a, Decidable (ok s a)] (e : ε) (step : α → σ → Except ε σ)
    (a : α) (s : σ) : Except ε σ :=
  if ok s a then step a s else .error e

lemma reachable_of_runGuarded {init : σ → Prop} {step : α → σ → Except ε σ}
    {ok : σ → α → Prop} [∀ s a, Decidable (ok s a)] {e : ε} {acts : List α} {s t : σ}
    (hs : Reachable init (Commits step ok) s)
    (h : runActions (guarded ok e step) acts s = .ok t) : Reachable init (Commits step ok) t := by
  unfold runActions at h
  refine foldlM_preserves (P := Reachable init (Commits step ok)) ?_ hs h
  intro u a v _ hu hua
  unfold guarded at hua
  split at hua
  next hok => exact .step hu ⟨a, hok, hua⟩
  next => simp only [reduceCtorEq] at hua

end VendorDashboard.Run

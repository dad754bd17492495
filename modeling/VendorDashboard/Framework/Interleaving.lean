import VendorDashboard.Framework.Run
import Mathlib.Logic.Function.Basic

/-!
# Processes over a shared store

Any number of processes run the same program over a shared store.  A step of a process is atomic:
it reads and writes the store, gets an answer from outside (the clock, a remote service, a failing
connection) and changes the local state of the process.  The order of the steps is arbitrary, so a
process may stall at any point, and one that takes no further step has crashed there.

`Program.Sound` is the proof rule: an invariant of the store and one of the local state of each
process, the latter kept by every step of the *others* as well.  `Program.SoundFresh` adds what is
known of a process before it is started.  `Program.SoundFresh.holds` is the induction over runs,
done once.
-/

namespace VendorDashboard.Interleaving

open Transaction Run

/-- A store `σ` and the local states `π` of the processes that were started, by their numbers. -/
structure World (σ π : Type) where
  shared : σ
  process : ℕ → Option π

/-- A move of the system: `ι` is what a process is called with, `ρ` an answer from outside, and
`ε` a move of the surroundings. -/
inductive Move (ι ρ ε : Type)
  | start (i : ℕ) (input : ι)
  | run (i : ℕ) (answer : ρ)
  | outside (e : ε)

structure Program (σ π ι ρ ε : Type) where
  /-- The local state of a process that has just been called. -/
  start : ι → π
  /-- The next step of a process, `none` when it cannot take place. -/
  run : ℕ → ρ → σ → π → Option (σ × π)
  outside : ε → σ → Option σ

variable {σ π ι ρ ε : Type}

namespace World

/-- No process has been started. -/
def init (s : σ) : World σ π := ⟨s, fun _ => none⟩

def withProcess (w : World σ π) (i : ℕ) (p : π) : World σ π :=
  { w with process := Function.update w.process i (some p) }

@[simp] lemma withProcess_same (w : World σ π) (i : ℕ) (p : π) :
    (w.withProcess i p).process i = some p := by
  simp [withProcess]

lemma withProcess_other (w : World σ π) {i j : ℕ} (p : π) (h : j ≠ i) :
    (w.withProcess i p).process j = w.process j := by
  simp [withProcess, Function.update_of_ne h]

lemma withProcess_some {w : World σ π} {i j : ℕ} {p q : π}
    (h : (w.withProcess i p).process j = some q) :
    (j = i ∧ q = p) ∨ (j ≠ i ∧ w.process j = some q) := by
  by_cases hj : j = i
  · subst hj
    rw [withProcess_same] at h
    exact .inl ⟨rfl, (Option.some.inj h).symm⟩
  · rw [withProcess_other w p hj] at h
    exact .inr ⟨hj, h⟩

lemma withProcess_none {w : World σ π} {i j : ℕ} {p : π}
    (h : (w.withProcess i p).process j = none) : j ≠ i ∧ w.process j = none := by
  by_cases hj : j = i
  · subst hj
    rw [withProcess_same] at h
    cases h
  · rw [withProcess_other w p hj] at h
    exact ⟨hj, h⟩

end World

namespace Program

variable (prog : Program σ π ι ρ ε)

def step (m : Move ι ρ ε) (w : World σ π) : Except Unit (World σ π) :=
  match m with
  | .start i input => do
      require ((w.process i).isNone) ()
      pure (w.withProcess i (prog.start input))
  | .run i answer => do
      let p ← getOrThrow (w.process i) ()
      let (s, q) ← getOrThrow (prog.run i answer w.shared p) ()
      pure (World.withProcess { w with shared := s } i q)
  | .outside e => do
      let s ← getOrThrow (prog.outside e w.shared) ()
      pure { w with shared := s }

/-- The worlds that runs from the stores of `init` reach, by moves that `ok` admits. -/
def Reaches (init : σ → Prop) (ok : World σ π → Move ι ρ ε → Prop) (w : World σ π) : Prop :=
  Reachable (fun w => ∃ s, init s ∧ w = World.init s) (Commits prog.step ok) w

variable {prog} {w w' : World σ π} {m : Move ι ρ ε}

lemma step_start_ok {i : ℕ} {input : ι} :
    prog.step (.start i input) w = .ok w' ↔
      w.process i = none ∧ w' = w.withProcess i (prog.start input) := by
  simp only [step, bind_eq_ok, require_eq_ok, pure_eq_ok, Option.isNone_iff_eq_none,
    exists_const]
  exact and_congr_right fun _ => eq_comm

lemma step_run_ok {i : ℕ} {answer : ρ} :
    prog.step (.run i answer) w = .ok w' ↔ ∃ p s q, w.process i = some p ∧
      prog.run i answer w.shared p = some (s, q) ∧
        w' = World.withProcess { w with shared := s } i q := by
  simp only [step, bind_eq_ok, getOrThrow_eq_ok, pure_eq_ok, Prod.exists]
  constructor
  · rintro ⟨p, hp, s, q, hrun, rfl⟩
    exact ⟨p, s, q, hp, hrun, rfl⟩
  · rintro ⟨p, s, q, hp, hrun, rfl⟩
    exact ⟨p, hp, s, q, hrun, rfl⟩

lemma step_outside_ok {e : ε} :
    prog.step (.outside e) w = .ok w' ↔
      ∃ s, prog.outside e w.shared = some s ∧ w' = { w with shared := s } := by
  simp only [step, bind_eq_ok, getOrThrow_eq_ok, pure_eq_ok]
  exact exists_congr fun _ => and_congr_right fun _ => eq_comm

/-- **What a move does to the store**: nothing, a step of one process, or a move of the
surroundings. -/
theorem step_shared (h : prog.step m w = .ok w') :
    w'.shared = w.shared ∨
      (∃ i answer p q, m = .run i answer ∧ w.process i = some p ∧
        prog.run i answer w.shared p = some (w'.shared, q)) ∨
      ∃ e, m = .outside e ∧ prog.outside e w.shared = some w'.shared := by
  cases m with
  | start i input =>
      obtain ⟨-, rfl⟩ := step_start_ok.mp h
      exact .inl rfl
  | run i answer =>
      obtain ⟨p, s, q, hp, hrun, rfl⟩ := step_run_ok.mp h
      exact .inr (.inl ⟨i, answer, p, q, rfl, hp, hrun⟩)
  | outside e =>
      obtain ⟨s, hs, rfl⟩ := step_outside_ok.mp h
      exact .inr (.inr ⟨e, rfl, hs⟩)

/-- Only a call makes a process. -/
lemma process_none_of_runActions {ms : List (Move ι ρ ε)} {i : ℕ} (hw : w.process i = none)
    (hms : ∀ m ∈ ms, ∀ input, m ≠ .start i input) (h : runActions prog.step ms w = .ok w') :
    w'.process i = none := by
  unfold runActions at h
  refine foldlM_preserves (P := fun w => w.process i = none) ?_ hw h
  intro u m v hm hu hstep
  cases m with
  | start j input =>
      obtain ⟨-, rfl⟩ := step_start_ok.mp hstep
      rw [World.withProcess_other]
      · exact hu
      · rintro rfl
        exact hms _ hm input rfl
  | run j answer =>
      obtain ⟨p, s, q, hp, -, rfl⟩ := step_run_ok.mp hstep
      rw [World.withProcess_other]
      · exact hu
      · rintro rfl
        rw [hu] at hp
        cases hp
  | outside e =>
      obtain ⟨s, -, rfl⟩ := step_outside_ok.mp hstep
      exact hu

/-- Fewer moves reach fewer worlds. -/
lemma Reaches.mono {init : σ → Prop} {ok ok' : World σ π → Move ι ρ ε → Prop}
    (hok : ∀ w m, ok w m → ok' w m) (h : prog.Reaches init ok w) : prog.Reaches init ok' w :=
  Reachable.mono (fun _ hinit => hinit) (fun w _ ⟨m, hm, hs⟩ => ⟨m, hok w m hm, hs⟩) h

/-! ## The proof rule -/

/-- The store has `I`, and the local state of every process has `J`. -/
def Holds (I : σ → Prop) (J : ℕ → σ → π → Prop) (w : World σ π) : Prop :=
  I w.shared ∧ ∀ i p, w.process i = some p → J i w.shared p

/-- The obligations for an invariant: the steps of a process keep the invariant of the store and
of the process itself, and no step of anyone else invalidates the invariant of a process. -/
structure Sound (prog : Program σ π ι ρ ε) (init : σ → Prop)
    (ok : World σ π → Move ι ρ ε → Prop) (I : σ → Prop) (J : ℕ → σ → π → Prop) : Prop where
  init : ∀ s, init s → I s
  start : ∀ i s input, I s → J i s (prog.start input)
  run : ∀ w i answer p s q, Holds I J w → w.process i = some p → ok w (.run i answer) →
    prog.run i answer w.shared p = some (s, q) → I s ∧ J i s q
  interference : ∀ w i answer p s q, Holds I J w → w.process i = some p →
    ok w (.run i answer) → prog.run i answer w.shared p = some (s, q) →
      ∀ j r, j ≠ i → w.process j = some r → J j s r
  outside : ∀ w e s, Holds I J w → ok w (.outside e) → prog.outside e w.shared = some s →
    I s ∧ ∀ j r, w.process j = some r → J j s r

/-- As `Holds`, and the store has `K` for every process that has not been started. -/
structure HoldsFresh (I : σ → Prop) (K : ℕ → σ → Prop) (J : ℕ → σ → π → Prop)
    (w : World σ π) : Prop where
  store : I w.shared
  process : ∀ i p, w.process i = some p → J i w.shared p
  fresh : ∀ i, w.process i = none → K i w.shared

/-- The obligations for an invariant that says of a process which has not been started that it
left nothing in the store. -/
structure SoundFresh (prog : Program σ π ι ρ ε) (init : σ → Prop)
    (ok : World σ π → Move ι ρ ε → Prop) (I : σ → Prop) (K : ℕ → σ → Prop)
    (J : ℕ → σ → π → Prop) : Prop where
  init : ∀ s, init s → I s ∧ ∀ i, K i s
  start : ∀ i s input, I s → K i s → J i s (prog.start input)
  run : ∀ w i answer p s q, HoldsFresh I K J w → w.process i = some p → ok w (.run i answer) →
    prog.run i answer w.shared p = some (s, q) → I s ∧ J i s q
  interference : ∀ w i answer p s q, HoldsFresh I K J w → w.process i = some p →
    ok w (.run i answer) → prog.run i answer w.shared p = some (s, q) → ∀ j, j ≠ i →
      (∀ r, w.process j = some r → J j s r) ∧ (w.process j = none → K j s)
  outside : ∀ w e s, HoldsFresh I K J w → ok w (.outside e) → prog.outside e w.shared = some s →
    HoldsFresh I K J { w with shared := s }

/-- A move keeps a sound invariant. -/
theorem SoundFresh.step {init : σ → Prop} {ok : World σ π → Move ι ρ ε → Prop} {I : σ → Prop}
    {K : ℕ → σ → Prop} {J : ℕ → σ → π → Prop} (h : SoundFresh prog init ok I K J)
    (hw : HoldsFresh I K J w) (hok : ok w m) (hs : prog.step m w = .ok w') :
    HoldsFresh I K J w' := by
  cases m with
  | start i input =>
      obtain ⟨hfresh, rfl⟩ := step_start_ok.mp hs
      refine ⟨hw.store, fun j r hr => ?_, fun j hr => ?_⟩
      · rcases World.withProcess_some hr with ⟨rfl, rfl⟩ | ⟨-, hr⟩
        · exact h.start j _ input hw.store (hw.fresh j hfresh)
        · exact hw.process j r hr
      · exact hw.fresh j (World.withProcess_none hr).2
  | run i answer =>
      obtain ⟨p, s, q, hp, hrun, rfl⟩ := step_run_ok.mp hs
      obtain ⟨hI, hJ⟩ := h.run w i answer p s q hw hp hok hrun
      have hother := h.interference w i answer p s q hw hp hok hrun
      refine ⟨hI, fun j r hr => ?_, fun j hr => ?_⟩
      · rcases World.withProcess_some hr with ⟨rfl, rfl⟩ | ⟨hj, hr⟩
        · exact hJ
        · exact (hother j hj).1 r hr
      · obtain ⟨hj, hr⟩ := World.withProcess_none hr
        exact (hother j hj).2 hr
  | outside e =>
      obtain ⟨s, he, rfl⟩ := step_outside_ok.mp hs
      exact h.outside w e s hw hok he

/-- **The invariant holds in every world of every run.** -/
theorem SoundFresh.holds {init : σ → Prop} {ok : World σ π → Move ι ρ ε → Prop} {I : σ → Prop}
    {K : ℕ → σ → Prop} {J : ℕ → σ → π → Prop} (h : SoundFresh prog init ok I K J)
    (hw : prog.Reaches init ok w) : HoldsFresh I K J w := by
  unfold Reaches at hw
  refine hw.invariant ?_ ?_
  · rintro _ ⟨s, hs, rfl⟩
    exact ⟨(h.init s hs).1, fun i p hp => by simp [World.init] at hp, fun i _ => (h.init s hs).2 i⟩
  · rintro _ _ - hw ⟨m, hok, hs⟩
    exact h.step hw hok hs

/-- Nothing need be known of the processes that have not been started. -/
theorem Sound.soundFresh {init : σ → Prop} {ok : World σ π → Move ι ρ ε → Prop} {I : σ → Prop}
    {J : ℕ → σ → π → Prop} (h : Sound prog init ok I J) :
    SoundFresh prog init ok I (fun _ _ => True) J where
  init := fun s hs => ⟨h.init s hs, fun _ => trivial⟩
  start := fun i s input hI _ => h.start i s input hI
  run := fun w i answer p s q hw => h.run w i answer p s q ⟨hw.store, hw.process⟩
  interference := fun w i answer p s q hw hp hok hrun j hj =>
    ⟨fun r hr => h.interference w i answer p s q ⟨hw.store, hw.process⟩ hp hok hrun j r hj hr,
      fun _ => trivial⟩
  outside := fun w e s hw hok he =>
    have hsound := h.outside w e s ⟨hw.store, hw.process⟩ hok he
    ⟨hsound.1, hsound.2, fun _ _ => trivial⟩

/-- **The invariant holds in every world of every run.** -/
theorem Sound.holds {init : σ → Prop} {ok : World σ π → Move ι ρ ε → Prop} {I : σ → Prop}
    {J : ℕ → σ → π → Prop} (h : Sound prog init ok I J) (hw : prog.Reaches init ok w) :
    Holds I J w :=
  have hfresh := h.soundFresh.holds hw
  ⟨hfresh.store, hfresh.process⟩

end Program

end VendorDashboard.Interleaving

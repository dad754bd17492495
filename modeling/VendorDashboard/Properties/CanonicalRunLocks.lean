import VendorDashboard.Reconciliation.CanonicalRuns
import VendorDashboard.Framework.Run

/-!
# The locks of the canonical reconciliation runs

Neither lock of `runCanonicalReconciliation` does its work.  The running row is read in one
statement and inserted in another, so two calls find none and insert two; and a row left by a crash
stays `RUNNING`, so every later call is blocked by a run that no longer exists.

`Guarded` names the steps that go wrong.  Without them there is at most one running row, and the
running row and the variable of an instance always belong to a call that is still at work
(`CanonicalStore.Locks`, `CanonicalProcess.Owns`), so nothing is left of a call that has ended or was
stopped.
-/

namespace VendorDashboard.Reconciliation

open Interleaving Table Transaction Run
open Finance (Id Instant)

/-! ## The properties -/

/-- At most one run is running. -/
def CanonicalStore.Exclusive (s : CanonicalStore) : Prop :=
  (s.runs.filter fun r => decide (r.status = .running)).length ≤ 1

/-- The row that a call works on. -/
def CanonicalPosition.row : CanonicalPosition → Option Id
  | .findCandidates run | .scan run _ _ | .update run _ | .updateFailed run _ _ => some run
  | _ => none

/-- The call has set the variable of its instance and not yet cleared it. -/
def CanonicalPosition.Started : CanonicalPosition → Prop
  | .insertRunning | .findCandidates _ | .scan .. | .update .. | .updateFailed .. | .release _ => True
  | _ => False

/-- A call that is alone and has its statements answered gets past both locks. -/
def CanonicalStore.Admits (s : CanonicalStore) (j : ℕ) (call : CanonicalCall) (now : Instant) :
    Prop :=
  ∃ sp ∈ [CanonicalAnswer.statement now, .statement now, .statement now].foldlM
    (fun (sp : CanonicalStore × CanonicalProcess) answer => sp.2.run j answer sp.1)
    (s, .start call), sp.2.position = .insertRunning

instance (s : CanonicalStore) (j : ℕ) (call : CanonicalCall) (now : Instant) :
    Decidable (s.Admits j call now) :=
  inferInstanceAs (Decidable (∃ _ ∈ _, _))

/-- Once every call that has started a run was stopped or has ended, a later call is not blocked. -/
def NeverWedged (w : CanonicalWorld) : Prop :=
  (∀ i p, w.process i = some p → p.position.Started → p.Stopped w.shared) →
    ∀ j call now, w.shared.Admits j call now

/-! ## The steps that go wrong -/

/-- A running row is inserted, while there is none, by an insert that is answered; and the update
in the `catch` clause does not fail. -/
def CanonicalProcess.Guarded (s : CanonicalStore) (answer : CanonicalAnswer)
    (p : CanonicalProcess) : Prop :=
  match p.position, answer with
  | .insertRunning, .inserted _ => ∀ r ∈ s.runs, r.status ≠ .running
  | .insertRunning, _ => False
  | .updateFailed .., .failed => False
  | _, _ => True

instance (s : CanonicalStore) (answer : CanonicalAnswer) (p : CanonicalProcess) :
    Decidable (p.Guarded s answer) := by
  unfold CanonicalProcess.Guarded
  split <;> infer_instance

/-- The calls are guarded, and no instance crashes while the run of one of its calls is running. -/
def CanonicalGuarded (w : CanonicalWorld) :
    Move CanonicalCall CanonicalAnswer CanonicalMove → Prop
  | .run i answer => ∀ p ∈ w.process i, p.Guarded w.shared answer
  | .outside (.crash k) => ∀ r ∈ w.shared.runs, r.status = .running → r.host ≠ k
  | .start _ _ => True

instance (w : CanonicalWorld) (m : Move CanonicalCall CanonicalAnswer CanonicalMove) :
    Decidable (CanonicalGuarded w m) := by
  unfold CanonicalGuarded
  split <;> infer_instance

/-! ## The invariant -/

/-- The rows have their own ids, and one of them is running at most. -/
structure CanonicalStore.Locks (s : CanonicalStore) : Prop where
  key : KeyUnique CanonicalReconciliationRun.id s.runs
  single : ∀ r ∈ s.runs, ∀ r' ∈ s.runs, r.status = .running → r'.status = .running → r.id = r'.id

/-- The running rows of a call and the variable that it has set are those of the position where it
is at work. -/
structure CanonicalProcess.Owns (i : ℕ) (s : CanonicalStore) (p : CanonicalProcess) : Prop where
  row : ∀ r ∈ s.runs, r.holder = i → r.status = .running →
    r.host = p.call.host ∧ ¬p.Stopped s ∧ p.position.row = some r.id
  active : ∀ k, (s.memory k).active = some i →
    k = p.call.host ∧ ¬p.Stopped s ∧ p.position.Started

/-- A call that was not made has left nothing. -/
structure CanonicalStore.Untouched (i : ℕ) (s : CanonicalStore) : Prop where
  row : ∀ r ∈ s.runs, r.holder = i → r.status ≠ .running
  active : ∀ k, (s.memory k).active ≠ some i

namespace CanonicalStore

variable {s s' : CanonicalStore} {i k : ℕ} {id : Id} {r : CanonicalReconciliationRun}
  {f : CanonicalReconciliationRun → CanonicalReconciliationRun} {active : Option ℕ}

lemma insert_ok : s.insert r = some s' ↔
    (∀ r' ∈ s.runs, r'.id ≠ r.id) ∧ s' = { s with runs := s.runs ++ [r] } := by
  unfold insert
  split
  next h =>
    obtain ⟨r', hr', hid⟩ := List.mem_map.mp h
    exact ⟨(by intro heq; cases heq), fun hfresh => absurd hid (hfresh.1 r' hr')⟩
  next h =>
    constructor
    · intro heq
      exact ⟨fun r' hr' hid => h (List.mem_map.mpr ⟨r', hr', hid⟩), (Option.some.inj heq).symm⟩
    · rintro ⟨-, rfl⟩
      rfl

lemma mem_updateRun {r' : CanonicalReconciliationRun} : r' ∈ (s.updateRun id f).runs ↔
    ∃ r ∈ s.runs, (r.id = id ∧ r' = f r) ∨ (r.id ≠ id ∧ r' = r) := by
  unfold updateRun
  rw [mem_updateWhere]
  refine exists_congr fun r => and_congr_right fun _ => ?_
  by_cases h : r.id = id <;> simp [h, eq_comm]

lemma setActive_active (l : ℕ) : ((s.setActive k active).memory l).active =
    if l = k then active else (s.memory l).active := by
  simp only [setActive, setMemory, Function.update_apply]
  split <;> rfl

@[simp] lemma setActive_epoch (l : ℕ) : ((s.setActive k active).memory l).epoch =
    (s.memory l).epoch := by
  simp only [setActive, setMemory, Function.update_apply]
  split
  next h => rw [h]
  next => rfl

lemma crash_memory (l : ℕ) : (s.crash k).memory l =
    if l = k then ⟨(s.memory k).epoch + 1, none⟩ else s.memory l := by
  simp only [crash, setMemory, Function.update_apply]

end CanonicalStore

/-! ## What a step writes -/

/-- What a guarded call `i` may do to the store in one step, and where it is then. -/
inductive CanonicalProcess.Writes (i : ℕ) (s : CanonicalStore) (p : CanonicalProcess) :
    CanonicalStore → CanonicalPosition → Prop
  | nothing {q : CanonicalPosition} (hrow : p.position.row = none ∨ q.row = p.position.row)
      (hstarted : p.position.Started → q.Started) : Writes i s p s q
  | activated (hrow : p.position.row = none) :
      Writes i s p (s.setActive p.call.host (some i)) .insertRunning
  | blocked {id : Id} {message : String} {s' : CanonicalStore} {q : CanonicalPosition}
      (hp : p.position = .insertBlocked message)
      (h : s.insert (p.blockedRun i id message) = some s') : Writes i s p s' q
  | started {id : Id} {s' : CanonicalStore} (hp : p.position = .insertRunning)
      (hnone : ∀ r ∈ s.runs, r.status ≠ .running) (h : s.insert (p.newRun i id) = some s') :
      Writes i s p s' (.findCandidates id)
  | finished {run : Id} {f : CanonicalReconciliationRun → CanonicalReconciliationRun}
      {q : CanonicalPosition} (hrow : p.position.row = some run) (hid : ∀ r, (f r).id = r.id)
      (hstatus : ∀ r, (f r).status ≠ .running)
      (hq : q.Started) : Writes i s p (s.updateRun run f) q
  | released {q : CanonicalPosition} (hrow : p.position.row = none) :
      Writes i s p (s.setActive p.call.host none) q

namespace CanonicalProcess

open CanonicalStore

variable {i j : ℕ} {s s' : CanonicalStore} {p q r : CanonicalProcess} {answer : CanonicalAnswer}
  {position : CanonicalPosition}

lemma finishRun_status (results : ScanResults) (now : Instant) (r : CanonicalReconciliationRun) :
    (finishRun results now r).status ≠ .running := by
  simp only [finishRun]
  split <;> simp

lemma nextOrder_row (run : Id) (orders : List String) (results : ScanResults) :
    (nextOrder run orders results).row = some run := by
  cases orders <;> rfl

lemma nextOrder_started (run : Id) (orders : List String) (results : ScanResults) :
    (nextOrder run orders results).Started := by
  cases orders <;> trivial

/-- **What a guarded step does.** -/
lemma runPosition_writes (hok : p.Guarded s answer)
    (h : p.runPosition i answer s = some (s', position)) : Writes i s p s' position := by
  obtain ⟨call, began, current⟩ := p
  unfold runPosition at h
  unfold Guarded at hok
  dsimp only at h hok
  split at h
  case h_1 | h_2 | h_3 | h_9 | h_10 =>
    -- the checks, and the failures before the call has started a run
    obtain ⟨rfl, rfl⟩ := Prod.mk.inj (Option.some.inj h)
    exact .nothing (.inl rfl) fun hs => hs.elim
  case h_4 =>
    obtain ⟨rfl, rfl⟩ := Prod.mk.inj (Option.some.inj h)
    exact .activated rfl
  case h_5 | h_6 =>
    obtain ⟨t, hins, heq⟩ := Option.map_eq_some_iff.mp h
    obtain ⟨rfl, rfl⟩ := Prod.mk.inj heq
    exact .blocked rfl hins
  case h_7 =>
    obtain ⟨t, hins, heq⟩ := Option.map_eq_some_iff.mp h
    obtain ⟨rfl, rfl⟩ := Prod.mk.inj heq
    exact .started rfl hok hins
  case h_8 | h_11 | h_20 => exact hok.elim
  case h_12 | h_14 =>
    obtain ⟨rfl, rfl⟩ := Prod.mk.inj (Option.some.inj h)
    exact .nothing (.inr (nextOrder_row ..)) fun _ => nextOrder_started ..
  case h_13 | h_17 =>
    obtain ⟨rfl, rfl⟩ := Prod.mk.inj (Option.some.inj h)
    exact .nothing (.inr rfl) fun _ => trivial
  case h_15 | h_16 =>
    obtain ⟨rfl, rfl⟩ := Prod.mk.inj (Option.some.inj h)
    exact .finished rfl (fun _ => rfl) (finishRun_status _ _) trivial
  case h_18 | h_19 =>
    obtain ⟨rfl, rfl⟩ := Prod.mk.inj (Option.some.inj h)
    exact .finished rfl (fun _ => rfl) (fun _ h => by cases h) trivial
  case h_21 =>
    obtain ⟨rfl, rfl⟩ := Prod.mk.inj (Option.some.inj h)
    exact .released rfl
  case h_22 => cases h

lemma Writes.epoch (h : Writes i s p s' position) (k : ℕ) :
    (s'.memory k).epoch = (s.memory k).epoch := by
  cases h with
  | nothing => rfl
  | activated => exact setActive_epoch k
  | blocked _ h => rw [(insert_ok.mp h).2]
  | started _ _ h => rw [(insert_ok.mp h).2]
  | finished => rfl
  | released => exact setActive_epoch k

lemma stopped_congr (hepoch : ∀ k, (s'.memory k).epoch = (s.memory k).epoch) :
    p.Stopped s' ↔ p.Stopped s := by
  unfold Stopped
  rw [hepoch]

/-- A call takes a step only while it is not stopped, and it is not stopped afterwards. -/
lemma run_ok (hok : p.Guarded s answer) (h : p.run i answer s = some (s', q)) :
    Writes i s p s' q.position ∧ q.call = p.call ∧ ¬p.Stopped s ∧ ¬q.Stopped s' := by
  unfold run at h
  split at h
  next => cases h
  next hrunning =>
    obtain ⟨⟨t, position⟩, hrun, heq⟩ := Option.map_eq_some_iff.mp h
    obtain ⟨rfl, rfl⟩ := Prod.mk.inj heq
    have hwrites := runPosition_writes hok hrun
    refine ⟨hwrites, rfl, hrunning, ?_⟩
    rw [stopped_congr hwrites.epoch]
    -- the call keeps the epoch in which it began, or notes the present one
    unfold Stopped at hrunning ⊢
    dsimp only
    split
    next now hnone =>
      rintro ⟨epoch, hepoch, hne⟩
      obtain rfl := Option.some.inj hepoch
      exact hne rfl
    next => exact hrunning

/-! ## Steps keep the invariant -/

lemma Writes.locks (hs : s.Locks) (h : Writes i s p s' position) : s'.Locks := by
  cases h with
  | nothing => exact hs
  | activated => exact ⟨hs.key, hs.single⟩
  | released => exact ⟨hs.key, hs.single⟩
  | blocked _ h =>
      obtain ⟨hfresh, rfl⟩ := insert_ok.mp h
      refine ⟨?_, fun r hr r' hr' hrun hrun' => ?_⟩
      · refine keyUnique_append.mpr ⟨hs.key, by simp [KeyUnique], fun r hr r' hr' => ?_⟩
        obtain rfl := List.mem_singleton.mp hr'
        exact hfresh r hr
      · -- the new row is not running
        rcases List.mem_append.mp hr with hr | hr
        · rcases List.mem_append.mp hr' with hr' | hr'
          · exact hs.single r hr r' hr' hrun hrun'
          · obtain rfl := List.mem_singleton.mp hr'
            cases hrun'
        · obtain rfl := List.mem_singleton.mp hr
          cases hrun
  | started _ hnone h =>
      obtain ⟨hfresh, rfl⟩ := insert_ok.mp h
      refine ⟨?_, fun r hr r' hr' hrun hrun' => ?_⟩
      · refine keyUnique_append.mpr ⟨hs.key, by simp [KeyUnique], fun r hr r' hr' => ?_⟩
        obtain rfl := List.mem_singleton.mp hr'
        exact hfresh r hr
      · -- there was no running row before
        rcases List.mem_append.mp hr with hr | hr
        · exact absurd hrun (hnone r hr)
        · rcases List.mem_append.mp hr' with hr' | hr'
          · exact absurd hrun' (hnone r' hr')
          · rw [List.mem_singleton.mp hr, List.mem_singleton.mp hr']
  | finished hrow hid hstatus hq =>
      refine ⟨hs.key.updateWhere hid, fun r hr r' hr' hrun hrun' => ?_⟩
      obtain ⟨x, hx, ⟨-, rfl⟩ | ⟨-, rfl⟩⟩ := mem_updateRun.mp hr
      · exact absurd hrun (hstatus x)
      · obtain ⟨y, hy, ⟨-, rfl⟩ | ⟨-, rfl⟩⟩ := mem_updateRun.mp hr'
        · exact absurd hrun' (hstatus y)
        · exact hs.single r hx r' hy hrun hrun'

/-- A step of call `i` keeps what it owns. -/
lemma Writes.owns (hp : p.Owns i s) (hcall : q.call = p.call) (hrunning : ¬q.Stopped s')
    (hq : q.position = position) (h : Writes i s p s' position) : q.Owns i s' := by
  have hnoRow : p.position.row = none → ∀ r ∈ s.runs, r.holder = i → r.status ≠ .running := by
    intro hrow r hr hi hrun
    have hsome := (hp.row r hr hi hrun).2.2
    rw [hrow] at hsome
    cases hsome
  cases h with
  | nothing hrow hstarted =>
      refine ⟨fun r hr hi hrun => ?_, fun k hk => ?_⟩
      · obtain ⟨hhost, -, hsome⟩ := hp.row r hr hi hrun
        refine ⟨hcall ▸ hhost, hrunning, ?_⟩
        rcases hrow with hrow | hrow
        · exact absurd hrun (hnoRow hrow r hr hi)
        · rw [hq, hrow, hsome]
      · obtain ⟨hhost, -, hs⟩ := hp.active k hk
        exact ⟨hcall ▸ hhost, hrunning, hq ▸ hstarted hs⟩
  | activated hrow =>
      refine ⟨fun r hr hi hrun => absurd hrun (hnoRow hrow r hr hi), fun k hk => ?_⟩
      rw [setActive_active] at hk
      split at hk
      next hhost => exact ⟨hcall ▸ hhost, hrunning, hq ▸ trivial⟩
      next => exact ⟨hcall ▸ (hp.active k hk).1, hrunning, hq ▸ trivial⟩
  | blocked hposition h =>
      obtain ⟨-, rfl⟩ := insert_ok.mp h
      have hrow : p.position.row = none := by rw [hposition]; rfl
      refine ⟨fun r hr hi hrun => ?_, fun k hk => ?_⟩
      · rcases List.mem_append.mp hr with hr | hr
        · exact absurd hrun (hnoRow hrow r hr hi)
        · obtain rfl := List.mem_singleton.mp hr
          cases hrun
      · have hs := (hp.active k hk).2.2
        rw [hposition] at hs
        exact hs.elim
  | started hposition hnone h =>
      obtain ⟨-, rfl⟩ := insert_ok.mp h
      refine ⟨fun r hr hi hrun => ?_, fun k hk => ?_⟩
      · rcases List.mem_append.mp hr with hr | hr
        · exact absurd hrun (hnone r hr)
        · obtain rfl := List.mem_singleton.mp hr
          exact ⟨by rw [hcall]; rfl, hrunning, by rw [hq]; rfl⟩
      · exact ⟨hcall ▸ (hp.active k hk).1, hrunning, hq ▸ trivial⟩
  | finished hrow hid hstatus hstarted =>
      refine ⟨fun r hr hi hrun => ?_, fun k hk => ?_⟩
      · -- the running row of the call was the one that is updated
        obtain ⟨x, hx, ⟨-, rfl⟩ | ⟨hne, rfl⟩⟩ := mem_updateRun.mp hr
        · exact absurd hrun (hstatus x)
        · have hsome := (hp.row r hx hi hrun).2.2
          rw [hrow] at hsome
          exact absurd (Option.some.inj hsome).symm hne
      · exact ⟨hcall ▸ (hp.active k hk).1, hrunning, hq ▸ hstarted⟩
  | released hrow =>
      refine ⟨fun r hr hi hrun => absurd hrun (hnoRow hrow r hr hi), fun k hk => ?_⟩
      rw [setActive_active] at hk
      split at hk
      next => cases hk
      next hne => exact absurd (hp.active k hk).1 hne

/-- What a step of call `i` keeps for the others: their running rows and variables are the ones
they had. -/
lemma Writes.others (hij : j ≠ i) (h : Writes i s p s' position) :
    (∀ r ∈ s'.runs, r.holder = j → r.status = .running → r ∈ s.runs) ∧
      ∀ k, (s'.memory k).active = some j → (s.memory k).active = some j := by
  have hset : ∀ k active, active ≠ some j → ∀ l,
      ((s.setActive k active).memory l).active = some j → (s.memory l).active = some j := by
    intro k active hne l hl
    rw [setActive_active] at hl
    split at hl
    next => exact absurd hl hne
    next => exact hl
  cases h with
  | nothing => exact ⟨fun r hr _ _ => hr, fun k hk => hk⟩
  | activated =>
      refine ⟨fun r hr _ _ => hr, hset _ _ fun heq => ?_⟩
      exact hij (Option.some.inj heq).symm
  | released => exact ⟨fun r hr _ _ => hr, hset _ _ (by simp)⟩
  | blocked _ h =>
      obtain ⟨-, rfl⟩ := insert_ok.mp h
      refine ⟨fun r hr _ hrun => ?_, fun k hk => hk⟩
      rcases List.mem_append.mp hr with hr | hr
      · exact hr
      · obtain rfl := List.mem_singleton.mp hr
        cases hrun
  | started _ _ h =>
      obtain ⟨-, rfl⟩ := insert_ok.mp h
      refine ⟨fun r hr hj _ => ?_, fun k hk => hk⟩
      rcases List.mem_append.mp hr with hr | hr
      · exact hr
      · obtain rfl := List.mem_singleton.mp hr
        exact absurd hj.symm hij
  | finished _ _ hstatus =>
      refine ⟨fun r hr _ hrun => ?_, fun k hk => hk⟩
      obtain ⟨x, hx, ⟨-, rfl⟩ | ⟨-, rfl⟩⟩ := mem_updateRun.mp hr
      · exact absurd hrun (hstatus x)
      · exact hx

/-- A step of call `i` invalidates nothing that another call owns. -/
lemma Writes.interference (hij : j ≠ i) (h : Writes i s p s' position) :
    (∀ r : CanonicalProcess, r.Owns j s → r.Owns j s') ∧ (s.Untouched j → s'.Untouched j) := by
  obtain ⟨hrows, hactive⟩ := h.others hij
  constructor
  · intro r hr
    refine ⟨fun x hx hj hrun => ?_, fun k hk => ?_⟩
    · rw [stopped_congr h.epoch]
      exact hr.row x (hrows x hx hj hrun) hj hrun
    · rw [stopped_congr h.epoch]
      exact hr.active k (hactive k hk)
  · intro hu
    exact ⟨fun x hx hj hrun => hu.row x (hrows x hx hj hrun) hj hrun,
      fun k hk => hu.active k (hactive k hk)⟩

/-- A crash that stops no running run takes nothing but variables. -/
lemma Owns.crash {k : ℕ} (hnone : ∀ r ∈ s.runs, r.status = .running → r.host ≠ k)
    (hp : p.Owns i s) : p.Owns i (s.crash k) := by
  have hstopped : p.call.host ≠ k → ¬p.Stopped s → ¬p.Stopped (s.crash k) := by
    intro hne hnot
    unfold Stopped at hnot ⊢
    rw [crash_memory, if_neg hne]
    exact hnot
  refine ⟨fun r hr hi hrun => ?_, fun l hl => ?_⟩
  · obtain ⟨hhost, hnot, hrow⟩ := hp.row r hr hi hrun
    exact ⟨hhost, hstopped (hhost ▸ hnone r hr hrun) hnot, hrow⟩
  · rw [crash_memory] at hl
    split at hl
    next => cases hl
    next hne =>
      obtain ⟨hhost, hnot, hs⟩ := hp.active l hl
      exact ⟨hhost, hstopped (hhost ▸ hne) hnot, hs⟩

lemma owns_start {call : CanonicalCall} (h : s.Untouched i) : (start call).Owns i s where
  row := fun r hr hi hrun => absurd hrun (h.row r hr hi)
  active := fun k hk => absurd hk (h.active k)

end CanonicalProcess

lemma CanonicalStore.Untouched.crash {i k : ℕ} {s : CanonicalStore} (h : s.Untouched i) :
    (s.crash k).Untouched i := by
  refine ⟨h.row, fun l hl => ?_⟩
  rw [crash_memory] at hl
  split at hl
  next => cases hl
  next => exact h.active l hl

open CanonicalProcess in
/-- **The invariant holds in every guarded run.** -/
theorem canonicalProgram_sound :
    canonicalProgram.SoundFresh CanonicalStore.New CanonicalGuarded CanonicalStore.Locks
      CanonicalStore.Untouched CanonicalProcess.Owns where
  init := by
    rintro s ⟨hruns, hmemory⟩
    refine ⟨⟨by rw [hruns]; exact .nil _, by simp [hruns]⟩, fun i => ⟨by simp [hruns], ?_⟩⟩
    intro k
    rw [hmemory k]
    exact Option.some_ne_none i |>.symm
  start := fun i s call _ hu => owns_start hu
  run := by
    intro w i answer p s q hw hp hok hrun
    obtain ⟨hwrites, hcall, -, hrunning⟩ := run_ok (hok p hp) hrun
    exact ⟨hwrites.locks hw.store, hwrites.owns (hw.process i p hp) hcall hrunning rfl⟩
  interference := by
    intro w i answer p s q hw hp hok hrun j hj
    obtain ⟨hwrites, -⟩ := run_ok (hok p hp) hrun
    obtain ⟨hother, hfresh⟩ := hwrites.interference hj
    exact ⟨fun r hr => hother r (hw.process j r hr), fun hr => hfresh (hw.fresh j hr)⟩
  outside := by
    rintro w ⟨k⟩ s hw hok heq
    obtain rfl := Option.some.inj heq
    exact ⟨⟨hw.store.key, hw.store.single⟩, fun j r hr => (hw.process j r hr).crash hok,
      fun j hr => (hw.fresh j hr).crash⟩

/-! ## At most one run is running, and none is left -/

namespace CanonicalStore

variable {s : CanonicalStore}

lemma Locks.exclusive (h : s.Locks) : s.Exclusive := by
  unfold Exclusive
  by_contra hmany
  obtain ⟨r, r', rest, heq⟩ : ∃ r r' rest,
      (s.runs.filter fun r => decide (r.status = .running)) = r :: r' :: rest := by
    rcases hl : s.runs.filter fun r => decide (r.status = .running) with _ | ⟨r, _ | ⟨r', rest⟩⟩
    · simp [hl] at hmany
    · simp [hl] at hmany
    · exact ⟨r, r', rest, hl⟩
  have hmem : ∀ x ∈ r :: r' :: rest, x ∈ s.runs ∧ x.status = .running := by
    intro x hx
    rw [← heq, List.mem_filter, decide_eq_true_eq] at hx
    exact hx
  obtain ⟨hr, hrun⟩ := hmem r (by simp)
  obtain ⟨hr', hrun'⟩ := hmem r' (by simp)
  -- two rows of one id cannot stand in the table
  have hkey : KeyUnique CanonicalReconciliationRun.id (r :: r' :: rest) := by
    rw [← heq]
    exact h.key.sublist (List.filter_sublist.map _)
  exact (keyUnique_cons.mp hkey).1 r' (by simp) (h.single r' hr' r hr hrun' hrun)

/-- No row is running, and no instance has set its variable. -/
structure Free (s : CanonicalStore) : Prop where
  row : ∀ r ∈ s.runs, r.status ≠ .running
  active : ∀ k, (s.memory k).active = none

lemma Free.findRunning (h : s.Free) : s.findRunning = none := by
  have hnone : (s.runs.filter fun r => decide (r.status = .running)) = [] := by
    refine List.filter_eq_nil_iff.mpr fun r hr => ?_
    rw [decide_eq_true_eq]
    exact h.row r hr
  unfold CanonicalStore.findRunning
  simp only [hnone, List.insertionSort_nil, List.head?_nil]

/-- A store without locks admits every call. -/
lemma Free.admits (h : s.Free) (j : ℕ) (call : CanonicalCall) (now : Instant) :
    s.Admits j call now := by
  let began := some ((s.memory call.host).epoch, now)
  have hnot : ∀ position, ¬CanonicalProcess.Stopped ⟨call, began, position⟩ s := by
    rintro position ⟨epoch, hepoch, hne⟩
    exact hne (Option.some.inj hepoch).symm
  have hstart : ¬(CanonicalProcess.start call).Stopped s := by
    rintro ⟨epoch, hepoch, -⟩
    cases hepoch
  have hcheck : (CanonicalProcess.start call).run j (.statement now) s =
      some (s, ⟨call, began, .findRunning⟩) := by
    unfold CanonicalProcess.run
    rw [if_neg hstart]
    simp only [CanonicalProcess.start, CanonicalProcess.runPosition, h.active]
    rfl
  have hread : CanonicalProcess.run j (.statement now) s ⟨call, began, .findRunning⟩ =
      some (s, ⟨call, began, .found none⟩) := by
    unfold CanonicalProcess.run
    rw [if_neg (hnot _)]
    simp only [CanonicalProcess.runPosition, h.findRunning]
    rfl
  have hset : CanonicalProcess.run j (.statement now) s ⟨call, began, .found none⟩ =
      some (s.setActive call.host (some j), ⟨call, began, .insertRunning⟩) := by
    unfold CanonicalProcess.run
    rw [if_neg (hnot _)]
    rfl
  refine ⟨(s.setActive call.host (some j), ⟨call, began, .insertRunning⟩), ?_, rfl⟩
  simp only [List.foldlM_cons, List.foldlM_nil, Option.bind_eq_bind, hcheck, hread, hset,
    Option.bind_some]
  rfl

end CanonicalStore

/-- The locks that a run leaves belong to a call that is still at work. -/
lemma free_of_holds {w : CanonicalWorld}
    (hw : Program.HoldsFresh CanonicalStore.Locks CanonicalStore.Untouched CanonicalProcess.Owns w)
    (hover : ∀ i p, w.process i = some p → p.position.Started → p.Stopped w.shared) :
    w.shared.Free := by
  constructor
  · intro r hr hrun
    cases hp : w.process r.holder with
    | none => exact (hw.fresh _ hp).row r hr rfl hrun
    | some p =>
        obtain ⟨-, hnot, hrow⟩ := (hw.process _ p hp).row r hr rfl hrun
        refine hnot (hover _ p hp ?_)
        cases hposition : p.position <;> simp_all [CanonicalPosition.row, CanonicalPosition.Started]
  · intro k
    cases hk : (w.shared.memory k).active with
    | none => rfl
    | some i =>
        cases hp : w.process i with
        | none => exact absurd hk ((hw.fresh i hp).active k)
        | some p =>
            obtain ⟨-, hnot, hstarted⟩ := (hw.process i p hp).active k hk
            exact absurd (hover i p hp hstarted) hnot

/-- **The canonical runs of a guarded run exclude each other and block no later call.** -/
theorem canonicalRuns_locks {w : CanonicalWorld}
    (hw : canonicalProgram.Reaches CanonicalStore.New CanonicalGuarded w) :
    w.shared.Exclusive ∧ NeverWedged w := by
  have h := canonicalProgram_sound.holds hw
  exact ⟨h.store.exclusive, fun hover j call now => (free_of_holds h hover).admits j call now⟩

/-! ### The two failures -/

section Samples

def sampleCanonicalCall (host : ℕ) : CanonicalCall := ⟨host, ⟨.repair, 7, 50⟩, ⟨none, none, none⟩⟩

/-- Call `i` is made and gets past the read of the running row. -/
def sampleCheck (i : ℕ) : List (Move CanonicalCall CanonicalAnswer CanonicalMove) :=
  [.start i (sampleCanonicalCall i), .run i (.statement 1), .run i (.statement 2)]

/-- It inserts its row. -/
def sampleStart (i : ℕ) (id : Id) : List (Move CanonicalCall CanonicalAnswer CanonicalMove) :=
  [.run i (.statement 3), .run i (.inserted id)]

def sampleFinish (i : ℕ) : List (Move CanonicalCall CanonicalAnswer CanonicalMove) :=
  [.run i (.candidates (.ok [])), .run i (.statement 5), .run i (.statement 6)]

def sampleCanonicalStore : CanonicalStore := ⟨[], fun _ => ⟨0, none⟩⟩

lemma sampleCanonicalStore_new : sampleCanonicalStore.New := ⟨rfl, fun _ => rfl⟩

/-- Both calls have read that no run is running. -/
theorem canonicalRuns_overlap : ∃ w : CanonicalWorld,
    canonicalProgram.Reaches CanonicalStore.New (fun _ _ => True) w ∧ ¬w.shared.Exclusive := by
  have hrun : Succeeds (runActions canonicalProgram.step
      (sampleCheck 0 ++ sampleCheck 1 ++ sampleStart 0 10 ++ sampleStart 1 11)
      (.init sampleCanonicalStore)) fun w =>
      (w.shared.runs.filter fun r => decide (r.status = .running)).length = 2 := by
    decide +kernel
  obtain ⟨w, hw, htwo⟩ := succeeds_iff.mp hrun
  refine ⟨w, reachable_of_runActions (.start ⟨_, sampleCanonicalStore_new, rfl⟩)
    (fun _ _ _ => trivial) hw, ?_⟩
  unfold CanonicalStore.Exclusive
  omega

/-- The instance crashes during the scan, and the row stays. -/
theorem canonicalRun_wedged : ∃ w : CanonicalWorld,
    canonicalProgram.Reaches CanonicalStore.New (fun _ _ => True) w ∧ ¬NeverWedged w := by
  have hrun : Succeeds (runActions canonicalProgram.step
      (sampleCheck 0 ++ sampleStart 0 10 ++ [.outside (.crash 0)]) (.init sampleCanonicalStore))
      fun w => (∀ p ∈ w.process 0, p.Stopped w.shared) ∧
        ¬w.shared.Admits 1 (sampleCanonicalCall 1) 9 := by
    decide +kernel
  obtain ⟨w, hw, hstopped, hblocked⟩ := succeeds_iff.mp hrun
  refine ⟨w, reachable_of_runActions (.start ⟨_, sampleCanonicalStore_new, rfl⟩)
    (fun _ _ _ => trivial) hw, fun h => hblocked (h (fun i p hp _ => ?_) 1 _ 9)⟩
  by_cases hi : i = 0
  · subst hi
    exact hstopped p hp
  · have hnone : w.process i = none := by
      refine Program.process_none_of_runActions rfl (fun m hm input => ?_) hw
      rintro rfl
      simp [sampleCheck, sampleStart] at hm
      exact hi hm.1
    rw [hnone] at hp
    cases hp

end Samples

end VendorDashboard.Reconciliation

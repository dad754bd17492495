import VendorDashboard.Reconciliation.ScheduledJobs
import VendorDashboard.Properties.CanonicalRunLocks

/-!
# The locks of the scheduled reconciliation jobs

The jobs of an allocation exclude each other by their status, and the status is read in one
statement and written in another.  Two create cycles insert two jobs for an allocation, two execute
cycles run one job, and the job of a cycle that crashed stays `PROCESSING`, which counts as active
for ever.

`ScheduledJobProcess.Guarded` names the steps that go wrong.  Without them a job that is processing is the
one a live cycle works on (`ExecutePosition.job`), no job ever waits for a retry, and once a job has
left `PENDING` it is never active again.

The section at the end puts the two kinds of reconciliation together.
-/

namespace VendorDashboard.Reconciliation

open Finance (Id Instant)
open Orders (OperationalJobStatus)
open Interleaving Table Transaction Run

/-! ## The properties -/

/-- At most one job of an allocation is pending, processing or waiting for a retry. -/
def ScheduledJobStore.Exclusive (s : ScheduledJobStore) : Prop :=
  ∀ job ∈ s.jobs, ∀ job' ∈ s.jobs, isReconciliationJobActive job.status = true →
    isReconciliationJobActive job'.status = true → job.vendorAllocationId.isSome →
      job.vendorAllocationId = job'.vendorAllocationId → job = job'

/-- Every job was executed by at most one cycle, and at most once. -/
def ScheduledJobStore.ExecutedOnce (s : ScheduledJobStore) : Prop := (s.executions.map (·.2)).Nodup

/-- The job that an execute cycle has marked as processing and works on. -/
def ExecutePosition.job : ExecutePosition → Option Id
  | .reconcile job _ _ | .markCompleted job _ _ => some job
  | .readForFailed site job _ _ | .markFailed _ site job _ _ =>
      if site = .linkage then none else some job
  | _ => none

/-- The position of `markOperationalJobFailed` in the `catch` clause. -/
def ExecutePosition.Caught : ExecutePosition → Prop
  | .readForFailed (.caught _) .. | .markFailed _ (.caught _) .. => True
  | _ => False

instance (position : ExecutePosition) : Decidable position.Caught := by
  unfold ExecutePosition.Caught
  split <;> infer_instance

def ScheduledJobProcess.job : ScheduledJobProcess → Option Id
  | .create .. => none
  | .execute _ position => position.job

/-- A candidate gets a job unless the latest related job is still pending, a cycle works on it, or
the cooldown has not passed. -/
def JobsRecover (w : ScheduledJobWorld) : Prop :=
  ∀ candidate now cooldownMs,
    (∀ job ∈ w.shared.findLatestRelatedReconciliationJob candidate,
      job.status ≠ .pending ∧ (∀ i p, w.process i = some p → p.job ≠ some job.id) ∧
        cooldownMs ≤ now - getLatestOperationalJobTimestamp job) →
    skipReason (w.shared.findLatestRelatedReconciliationJob candidate) now cooldownMs = none

/-! ## The steps that go wrong -/

/-- A job is inserted while no job of its allocation is active; it is marked as processing while it
is pending, by an update that is answered; the cycle does not crash while it works on it; and
`markOperationalJobFailed` does not fail in the `catch` clause. -/
def ScheduledJobProcess.Guarded (s : ScheduledJobStore) (answer : ScheduledJobAnswer)
    (p : ScheduledJobProcess) : Prop :=
  match p, answer with
  | .execute _ position, .crash => position.job = none
  | .execute _ position, .failed => ¬position.Caught
  | .create _ (.insert candidate _ _), .inserted _ _
  | .create _ (.insert candidate _ _), .insertLost _ _ =>
      ∀ job ∈ s.jobs, candidate.vendorAllocationId.isSome →
        job.vendorAllocationId = candidate.vendorAllocationId →
          isReconciliationJobActive job.status = false
  | .execute _ (.markProcessing job _ _), .statement _ =>
      ∃ row ∈ s.findJob job, row.status = .pending
  | .execute _ (.markProcessing ..), .lost _ => False
  | _, _ => True

instance (s : ScheduledJobStore) (answer : ScheduledJobAnswer) (p : ScheduledJobProcess) :
    Decidable (p.Guarded s answer) := by
  unfold ScheduledJobProcess.Guarded
  split <;> infer_instance

def ScheduledJobsGuarded (w : ScheduledJobWorld) :
    Move ScheduledJobCycle ScheduledJobAnswer Empty → Prop
  | .run i answer => ∀ p ∈ w.process i, p.Guarded w.shared answer
  | _ => True

instance (w : ScheduledJobWorld) (m : Move ScheduledJobCycle ScheduledJobAnswer Empty) :
    Decidable (ScheduledJobsGuarded w m) := by
  unfold ScheduledJobsGuarded
  split <;> infer_instance

/-! ## The invariant -/

structure ScheduledJobStore.Sound (s : ScheduledJobStore) : Prop where
  key : KeyUnique ReconciliationJob.id s.jobs
  maxRetries : ∀ job ∈ s.jobs, job.maxRetries = 1
  /-- No job waits for a retry. -/
  noRetry : ∀ job ∈ s.jobs, job.status ≠ .retryScheduled ∧ job.status ≠ .retrying
  exclusive : s.Exclusive
  /-- A job that was executed exists and is not pending. -/
  executed : ∀ e ∈ s.executions, ∃ job ∈ s.jobs, job.id = e.2 ∧ job.status ≠ .pending
  once : s.ExecutedOnce
  processing : ∀ job ∈ s.jobs, job.status = .processing → ∃ e ∈ s.executions, e.2 = job.id

/-- The counts that were read before a failure is recorded. -/
def ScheduledJobProcess.CountsRead : ScheduledJobProcess → Prop
  | .execute _ (.markFailed counts ..) => counts.maxRetries = 1
  | _ => True

/-- A job that cycle `i` has marked as processing is processing only while the cycle works on it. -/
structure ScheduledJobProcess.Owns (i : ℕ) (s : ScheduledJobStore) (p : ScheduledJobProcess) :
    Prop where
  working : ∀ e ∈ s.executions, e.1 = i → ∀ job ∈ s.jobs, job.id = e.2 →
    job.status = .processing → p.job = some job.id
  counts : p.CountsRead

def ScheduledJobStore.Untouched (i : ℕ) (s : ScheduledJobStore) : Prop :=
  ∀ e ∈ s.executions, e.1 ≠ i

namespace ScheduledJobStore

variable {s s' : ScheduledJobStore} {i : ℕ} {id : Id} {job : ReconciliationJob}
  {f : ReconciliationJob → ReconciliationJob}

lemma insert_ok : s.insert job = some s' ↔
    (∀ job' ∈ s.jobs, job'.id ≠ job.id) ∧ s' = { s with jobs := s.jobs ++ [job] } := by
  unfold insert
  split
  next h =>
    obtain ⟨job', hjob', hid⟩ := List.mem_map.mp h
    exact ⟨(by intro heq; cases heq), fun hfresh => absurd hid (hfresh.1 job' hjob')⟩
  next h =>
    constructor
    · intro heq
      exact ⟨fun job' hjob' hid => h (List.mem_map.mpr ⟨job', hjob', hid⟩),
        (Option.some.inj heq).symm⟩
    · rintro ⟨-, rfl⟩
      rfl

lemma mem_updateJob {job' : ReconciliationJob} : job' ∈ (s.updateJob id f).jobs ↔
    ∃ job ∈ s.jobs, (job.id = id ∧ job' = f job) ∨ (job.id ≠ id ∧ job' = job) := by
  unfold updateJob
  rw [mem_updateWhere]
  refine exists_congr fun job => and_congr_right fun _ => ?_
  by_cases h : job.id = id <;> simp [h, eq_comm]

end ScheduledJobStore

/-! ## What a step writes -/

/-- The job was finished: what identifies it stays, and it is not active any more. -/
structure ReconciliationJob.Finishes (f : ReconciliationJob → ReconciliationJob) : Prop where
  id : ∀ job, (f job).id = job.id
  maxRetries : ∀ job, (f job).maxRetries = job.maxRetries
  status : ∀ job, (f job).status ∈ TERMINAL_RECONCILIATION_JOB_STATUSES

namespace ReconciliationJob

lemma markCompleted_finishes (now : Instant) : Finishes (·.markCompleted now) :=
  ⟨fun _ => rfl, fun _ => rfl, fun _ => by simp [markCompleted, TERMINAL_RECONCILIATION_JOB_STATUSES]⟩

/-- A job with one attempt is never retried. -/
lemma markFailed_finishes {counts : FailureCounts} (h : counts.maxRetries = 1) (failure : JobFailure)
    (now : Instant) : Finishes (·.markFailed counts failure now) := by
  refine ⟨fun _ => rfl, fun _ => rfl, fun job => ?_⟩
  have hcan : decide (((counts.retryCount + 1 : ℕ) : ℤ) < counts.maxRetries) = false := by
    rw [h]
    simp
  unfold markFailed markOperationalJobFailed
  dsimp only
  rw [hcan, Bool.and_false]
  split
  · simp [TERMINAL_RECONCILIATION_JOB_STATUSES]
  · split <;> simp [TERMINAL_RECONCILIATION_JOB_STATUSES]

end ReconciliationJob

/-- What a guarded cycle `i` may do to the store in one step, and where it is then. -/
inductive ScheduledJobProcess.Writes (i : ℕ) (s : ScheduledJobStore) (p : ScheduledJobProcess) :
    ScheduledJobStore → ScheduledJobProcess → Prop
  | nothing {q : ScheduledJobProcess}
      (hjob : ∀ job ∈ s.jobs, p.job = some job.id → q.job = some job.id) (hq : q.CountsRead) :
      Writes i s p s q
  | inserted {job : ReconciliationJob} {s' : ScheduledJobStore} {q : ScheduledJobProcess}
      (hjob : p.job = none) (hpending : job.status = .pending) (hmax : job.maxRetries = 1)
      (hfree : ∀ job' ∈ s.jobs, job.vendorAllocationId.isSome →
        job'.vendorAllocationId = job.vendorAllocationId →
          isReconciliationJobActive job'.status = false)
      (h : s.insert job = some s') (hq : q.CountsRead) : Writes i s p s' q
  | processing {id : Id} {row : ReconciliationJob} {q : ScheduledJobProcess} (now : Instant)
      (hjob : p.job = none) (hrow : s.findJob id = some row) (hpending : row.status = .pending)
      (hq : q.job = some id) (hcounts : q.CountsRead) : Writes i s p (s.markProcessing i id now) q
  | finished {id : Id} {f : ReconciliationJob → ReconciliationJob} {q : ScheduledJobProcess}
      (hjob : p.job = none ∨ p.job = some id) (hf : ReconciliationJob.Finishes f)
      (hq : q.CountsRead) : Writes i s p (s.updateJob id f) q

namespace ScheduledJobProcess

open ScheduledJobStore ReconciliationJob

variable {i j : ℕ} {s s' : ScheduledJobStore} {p q : ScheduledJobProcess}
  {answer : ScheduledJobAnswer}

lemma Writes.idle (hp : p.job = none) (hq : q.CountsRead) : Writes i s p s q := by
  refine .nothing (fun job _ hjob => ?_) hq
  rw [hp] at hjob
  cases hjob

lemma Writes.same (hjob : q.job = p.job) (hq : q.CountsRead) : Writes i s p s q :=
  .nothing (fun _ _ h => hjob.trans h) hq

lemma create_writes {input : CreateCycle} {position position' : CreatePosition}
    (hok : Guarded s answer (.create input position))
    (h : position.run input answer s = some (s', position')) :
    Writes i s (.create input position) s' (.create input position') := by
  unfold CreatePosition.run at h
  unfold Guarded at hok
  split at h
  case h_7 | h_8 =>
    obtain ⟨t, hins, heq⟩ := Option.map_eq_some_iff.mp h
    obtain ⟨rfl, rfl⟩ := Prod.mk.inj heq
    exact .inserted rfl rfl rfl hok hins trivial
  all_goals
    first
    | cases h
      done
    | obtain ⟨rfl, rfl⟩ := Prod.mk.inj (Option.some.inj h)
      exact .idle rfl trivial

lemma execute_writes {input : ExecuteCycle} {position position' : ExecutePosition} (hs : s.Sound)
    (hp : CountsRead (.execute input position)) (hok : Guarded s answer (.execute input position))
    (h : position.run input i answer s = some (s', position')) :
    Writes i s (.execute input position) s' (.execute input position') := by
  unfold ExecutePosition.run at h
  unfold Guarded at hok
  split at h
  case h_1 | h_20 => cases h
  case h_2 =>
    obtain ⟨rfl, rfl⟩ := Prod.mk.inj (Option.some.inj h)
    exact .idle hok trivial
  case h_3 | h_4 | h_17 | h_18 | h_19 =>
    obtain ⟨rfl, rfl⟩ := Prod.mk.inj (Option.some.inj h)
    exact .idle rfl trivial
  case h_5 =>
    obtain ⟨rfl, rfl⟩ := Prod.mk.inj (Option.some.inj h)
    refine .idle rfl ?_
    unfold ExecutePosition.afterFindJob
    split
    · trivial
    · split <;> trivial
  case h_6 =>
    obtain ⟨rfl, rfl⟩ := Prod.mk.inj (Option.some.inj h)
    obtain ⟨row, hrow, hpending⟩ := hok
    exact .processing _ rfl hrow hpending rfl trivial
  case h_7 => exact hok.elim
  case h_8 outcome =>
    obtain ⟨rfl, rfl⟩ := Prod.mk.inj (Option.some.inj h)
    cases outcome <;> exact .same rfl trivial
  case h_9 | h_10 =>
    obtain ⟨rfl, rfl⟩ := Prod.mk.inj (Option.some.inj h)
    exact .finished (.inr rfl) (markCompleted_finishes _) trivial
  case h_11 =>
    obtain ⟨rfl, rfl⟩ := Prod.mk.inj (Option.some.inj h)
    exact .same rfl trivial
  case h_12 site job jobs results _ =>
    obtain ⟨rfl, rfl⟩ := Prod.mk.inj (Option.some.inj h)
    split
    next row hrow => exact .same rfl (congrArg Nat.cast (hs.maxRetries row (mem_of_findRow hrow)))
    next hnone =>
      refine .nothing (fun row hrow hjob => ?_) trivial
      have hid : row.id = job := by
        unfold ScheduledJobProcess.job ExecutePosition.job at hjob
        dsimp only at hjob
        split at hjob
        · cases hjob
        · exact (Option.some.inj hjob).symm
      exact absurd hid (findRow_eq_none.mp hnone row hrow)
  case h_13 site _ _ _ _ =>
    obtain ⟨rfl, rfl⟩ := Prod.mk.inj (Option.some.inj h)
    refine .finished ?_ (markFailed_finishes hp _ _) trivial
    cases site <;> first | exact .inl rfl | exact .inr rfl
  case h_14 site _ _ _ _ =>
    obtain ⟨rfl, rfl⟩ := Prod.mk.inj (Option.some.inj h)
    cases site
    · exact .finished (.inl rfl) (markFailed_finishes hp _ _) trivial
    · exact .finished (.inr rfl) (markFailed_finishes hp _ _) trivial
    · exact .finished (.inr rfl) (markFailed_finishes hp _ _) trivial
  case h_15 site _ _ _ | h_16 site _ _ _ =>
    obtain ⟨rfl, rfl⟩ := Prod.mk.inj (Option.some.inj h)
    -- the failure in the `catch` clause is excluded
    cases site
    · exact .idle rfl trivial
    · exact .same rfl trivial
    · exact absurd trivial hok

lemma run_writes (hs : s.Sound) (hp : p.CountsRead) (hok : p.Guarded s answer)
    (h : p.run i answer s = some (s', q)) : Writes i s p s' q := by
  cases p with
  | create input position =>
      obtain ⟨⟨t, position'⟩, hrun, heq⟩ := Option.map_eq_some_iff.mp h
      obtain ⟨rfl, rfl⟩ := Prod.mk.inj heq
      exact create_writes hok hrun
  | execute input position =>
      obtain ⟨⟨t, position'⟩, hrun, heq⟩ := Option.map_eq_some_iff.mp h
      obtain ⟨rfl, rfl⟩ := Prod.mk.inj heq
      exact execute_writes hs hp hok hrun

/-! ## Steps keep the invariant -/

lemma Writes.counts (h : Writes i s p s' q) : q.CountsRead := by
  cases h <;> assumption

lemma active_pending {status : OperationalJobStatus} (h : status = .pending) :
    isReconciliationJobActive status = true := by
  subst h
  rfl

lemma not_active_of_terminal {status : OperationalJobStatus}
    (h : status ∈ TERMINAL_RECONCILIATION_JOB_STATUSES) :
    isReconciliationJobActive status = false := by
  cases status <;> first | rfl | simp [TERMINAL_RECONCILIATION_JOB_STATUSES] at h

/-- An update that makes no job active keeps the jobs of an allocation exclusive. -/
lemma exclusive_updateJob {id : Id} {f : ReconciliationJob → ReconciliationJob} (hs : s.Exclusive)
    (hf : ∀ job ∈ s.jobs, job.id = id → isReconciliationJobActive (f job).status = true →
      isReconciliationJobActive job.status = true ∧
        (f job).vendorAllocationId = job.vendorAllocationId) :
    (s.updateJob id f).Exclusive := by
  have hback : ∀ job' ∈ (s.updateJob id f).jobs, isReconciliationJobActive job'.status = true →
      ∃ job ∈ s.jobs, isReconciliationJobActive job.status = true ∧
        job'.vendorAllocationId = job.vendorAllocationId ∧
          job' = if job.id = id then f job else job := by
    intro job' hjob' hactive
    obtain ⟨job, hjob, ⟨hid, rfl⟩ | ⟨hid, rfl⟩⟩ := mem_updateJob.mp hjob'
    · obtain ⟨hwas, hallocation⟩ := hf job hjob hid hactive
      exact ⟨job, hjob, hwas, hallocation, by rw [if_pos hid]⟩
    · exact ⟨job', hjob, hactive, rfl, by rw [if_neg hid]⟩
  intro x' hx' y' hy' hx hy hsome heq
  obtain ⟨x, hxmem, hxactive, hxalloc, rfl⟩ := hback x' hx' hx
  obtain ⟨y, hymem, hyactive, hyalloc, rfl⟩ := hback y' hy' hy
  have hxy : x = y := by
    refine hs x hxmem y hymem hxactive hyactive ?_ ?_
    · rw [← hxalloc]
      exact hsome
    · rw [← hxalloc, heq, hyalloc]
  rw [hxy]

/-- An update that leaves no job pending keeps that the executed jobs are not. -/
lemma executed_updateJob {id k : Id} {f : ReconciliationJob → ReconciliationJob}
    (hid : ∀ job, (f job).id = job.id) (hpending : ∀ job, (f job).status ≠ .pending)
    (h : ∃ job ∈ s.jobs, job.id = k ∧ job.status ≠ .pending) :
    ∃ job ∈ (s.updateJob id f).jobs, job.id = k ∧ job.status ≠ .pending := by
  obtain ⟨job, hjob, hk, hstatus⟩ := h
  by_cases hupdated : job.id = id
  · exact ⟨f job, mem_updateJob.mpr ⟨job, hjob, .inl ⟨hupdated, rfl⟩⟩, (hid job).trans hk,
      hpending job⟩
  · exact ⟨job, mem_updateJob.mpr ⟨job, hjob, .inr ⟨hupdated, rfl⟩⟩, hk, hstatus⟩

lemma Writes.sound (hs : s.Sound) (h : Writes i s p s' q) : s'.Sound := by
  cases h with
  | nothing => exact hs
  | @inserted job _ _ _ hpending hmax hfree h =>
      obtain ⟨hfresh, rfl⟩ := insert_ok.mp h
      have hmem : ∀ {x}, x ∈ s.jobs ++ [job] → x ∈ s.jobs ∨ x = job := fun hx =>
        (List.mem_append.mp hx).imp_right List.mem_singleton.mp
      refine ⟨?_, fun x hx => ?_, fun x hx => ?_, ?_, fun e he => ?_, hs.once, fun x hx hx' => ?_⟩
      · refine keyUnique_append.mpr ⟨hs.key, by simp [KeyUnique], fun x hx y hy => ?_⟩
        obtain rfl := List.mem_singleton.mp hy
        exact hfresh x hx
      · rcases hmem hx with hx | rfl
        · exact hs.maxRetries x hx
        · exact hmax
      · rcases hmem hx with hx | rfl
        · exact hs.noRetry x hx
        · rw [hpending]
          exact ⟨by simp, by simp⟩
      · -- no other job of the allocation is active
        intro x hx y hy hxactive hyactive hsome heq
        rcases hmem hx with hxold | rfl
        · rcases hmem hy with hyold | rfl
          · exact hs.exclusive x hxold y hyold hxactive hyactive hsome heq
          · have hnot := hfree x hxold (heq ▸ hsome) heq
            rw [hnot] at hxactive
            cases hxactive
        · rcases hmem hy with hyold | rfl
          · have hnot := hfree y hyold hsome heq.symm
            rw [hnot] at hyactive
            cases hyactive
          · rfl
      · obtain ⟨x, hx, hrest⟩ := hs.executed e he
        exact ⟨x, List.mem_append_left _ hx, hrest⟩
      · rcases hmem hx with hx | rfl
        · exact hs.processing x hx hx'
        · rw [hpending] at hx'
          cases hx'
  | @processing id row _ now _ hrow hpending =>
      have hmem := mem_of_findRow hrow
      have hkey : row.id = id := key_of_findRow hrow
      have hid : ∀ job : ReconciliationJob, (job.markProcessing now).id = job.id := fun _ => rfl
      have hnot : ∀ job : ReconciliationJob, (job.markProcessing now).status ≠ .pending :=
        fun _ h => by cases h
      refine ⟨hs.key.updateWhere hid, fun x hx => ?_, fun x hx => ?_, ?_, fun e he => ?_, ?_,
        fun x hx hx' => ?_⟩
      · obtain ⟨y, hy, ⟨-, rfl⟩ | ⟨-, rfl⟩⟩ := mem_updateJob.mp hx
        · exact hs.maxRetries y hy
        · exact hs.maxRetries x hy
      · obtain ⟨y, hy, ⟨-, rfl⟩ | ⟨-, rfl⟩⟩ := mem_updateJob.mp hx
        · exact ⟨(fun h => by cases h), (fun h => by cases h)⟩
        · exact hs.noRetry x hy
      · refine exclusive_updateJob hs.exclusive fun x hx hxid _ => ⟨?_, rfl⟩
        obtain rfl := hs.key.eq hx hmem (hxid.trans hkey.symm)
        exact active_pending hpending
      · rcases List.mem_append.mp he with he | he
        · exact executed_updateJob hid hnot (hs.executed e he)
        · obtain rfl := List.mem_singleton.mp he
          exact ⟨_, mem_updateJob.mpr ⟨row, hmem, .inl ⟨hkey, rfl⟩⟩, hkey, hnot row⟩
      · -- a job that was executed before is not pending
        unfold ScheduledJobStore.ExecutedOnce ScheduledJobStore.markProcessing
        rw [List.map_append, List.nodup_append]
        refine ⟨hs.once, by simp, fun k hk k' hk' => ?_⟩
        obtain ⟨e, he, rfl⟩ := List.mem_map.mp hk
        obtain rfl := List.mem_singleton.mp hk'
        rintro heq
        obtain ⟨x, hx, hxid, hstatus⟩ := hs.executed e he
        obtain rfl := hs.key.eq hx hmem ((hxid.trans heq).trans hkey.symm)
        exact hstatus hpending
      · obtain ⟨y, hy, ⟨hyid, rfl⟩ | ⟨-, rfl⟩⟩ := mem_updateJob.mp hx
        · exact ⟨(i, id), List.mem_append_right _ (List.mem_singleton.mpr rfl), hyid.symm⟩
        · obtain ⟨e, he, heq⟩ := hs.processing x hy hx'
          exact ⟨e, List.mem_append_left _ he, heq⟩
  | @finished id f _ _ hf =>
      have hterminal : ∀ job : ReconciliationJob, ∀ status,
          isReconciliationJobActive status = true → (f job).status ≠ status := by
        intro job status hactive heq
        have hnot := not_active_of_terminal (hf.status job)
        rw [heq, hactive] at hnot
        cases hnot
      refine ⟨hs.key.updateWhere hf.id, fun x hx => ?_, fun x hx => ?_, ?_, fun e he => ?_, hs.once,
        fun x hx hx' => ?_⟩
      · obtain ⟨y, hy, ⟨-, rfl⟩ | ⟨-, rfl⟩⟩ := mem_updateJob.mp hx
        · exact (hf.maxRetries y).trans (hs.maxRetries y hy)
        · exact hs.maxRetries x hy
      · obtain ⟨y, hy, ⟨-, rfl⟩ | ⟨-, rfl⟩⟩ := mem_updateJob.mp hx
        · exact ⟨hterminal y _ rfl, hterminal y _ rfl⟩
        · exact hs.noRetry x hy
      · refine exclusive_updateJob hs.exclusive fun x _ _ hactive => ?_
        exact absurd rfl (hterminal x _ hactive)
      · exact executed_updateJob hf.id (fun job => hterminal job _ rfl) (hs.executed e he)
      · obtain ⟨y, hy, ⟨-, rfl⟩ | ⟨-, rfl⟩⟩ := mem_updateJob.mp hx
        · exact absurd hx' (hterminal y _ rfl)
        · exact hs.processing x hy hx'

/-- A step of cycle `i` keeps what it owns. -/
lemma Writes.owns (hp : p.Owns i s) (h : Writes i s p s' q) : q.Owns i s' := by
  refine ⟨?_, h.counts⟩
  cases h with
  | nothing hjob =>
      intro e he hi job hmem hid hstatus
      exact hjob job hmem (hp.working e he hi job hmem hid hstatus)
  | @inserted new _ _ hjob hpending _ _ h =>
      obtain ⟨-, rfl⟩ := insert_ok.mp h
      intro e he hi job hmem hid hstatus
      rcases List.mem_append.mp hmem with hmem | hmem
      · have hsome := hp.working e he hi job hmem hid hstatus
        rw [hjob] at hsome
        cases hsome
      · obtain rfl := List.mem_singleton.mp hmem
        rw [hpending] at hstatus
        cases hstatus
  | @processing id row _ now hjob _ _ hq =>
      intro e he hi job hmem hid hstatus
      obtain ⟨x, hx, ⟨hxid, rfl⟩ | ⟨hne, rfl⟩⟩ := mem_updateJob.mp hmem
      · rw [hq]
        exact congrArg some hxid.symm
      · rcases List.mem_append.mp he with he | he
        · have hsome := hp.working e he hi job hx hid hstatus
          rw [hjob] at hsome
          cases hsome
        · obtain rfl := List.mem_singleton.mp he
          exact absurd hid hne
  | @finished id f _ hjob hf =>
      intro e he hi job hmem hid hstatus
      obtain ⟨x, hx, ⟨-, rfl⟩ | ⟨hne, rfl⟩⟩ := mem_updateJob.mp hmem
      · have hnot := not_active_of_terminal (hf.status x)
        rw [hstatus] at hnot
        cases hnot
      · have hsome := hp.working e he hi job hx hid hstatus
        rcases hjob with hnone | hjob
        · rw [hnone] at hsome
          cases hsome
        · rw [hjob] at hsome
          exact absurd (Option.some.inj hsome).symm hne

/-- What a step of cycle `i` keeps for the others: their executions are the ones they had, and no
other job of theirs starts processing. -/
lemma Writes.interference (hs : s.Sound) (hij : j ≠ i) (h : Writes i s p s' q) :
    (∀ r : ScheduledJobProcess, r.Owns j s → r.Owns j s') ∧ (s.Untouched j → s'.Untouched j) := by
  cases h with
  | nothing => exact ⟨fun r hr => hr, fun hu => hu⟩
  | @inserted new _ _ _ hpending _ _ h =>
      obtain ⟨-, rfl⟩ := insert_ok.mp h
      refine ⟨fun r hr => ⟨fun e he hj job hmem hid hstatus => ?_, hr.counts⟩, fun hu => hu⟩
      rcases List.mem_append.mp hmem with hmem | hmem
      · exact hr.working e he hj job hmem hid hstatus
      · obtain rfl := List.mem_singleton.mp hmem
        rw [hpending] at hstatus
        cases hstatus
  | @processing id row _ now _ hrow hpending =>
      have hold : ∀ e ∈ s.executions ++ [(i, id)], e.1 = j → e ∈ s.executions := by
        intro e he hj
        rcases List.mem_append.mp he with he | he
        · exact he
        · obtain rfl := List.mem_singleton.mp he
          exact absurd hj.symm hij
      refine ⟨fun r hr => ⟨fun e he hj job hmem hid hstatus => ?_, hr.counts⟩, fun hu e he hj => ?_⟩
      · have he := hold e he hj
        obtain ⟨x, hx, ⟨hxid, rfl⟩ | ⟨-, rfl⟩⟩ := mem_updateJob.mp hmem
        · -- the job was pending, so nobody had executed it
          obtain ⟨y, hy, hyid, hnot⟩ := hs.executed e he
          have hyrow : y.id = row.id := by
            rw [hyid, ← hid, key_of_findRow hrow]
            exact hxid
          obtain rfl := hs.key.eq hy (mem_of_findRow hrow) hyrow
          exact absurd hpending hnot
        · exact hr.working e he hj job hx hid hstatus
      · exact hu e (hold e he hj) hj
  | @finished id f _ _ hf =>
      refine ⟨fun r hr => ⟨fun e he hj job hmem hid hstatus => ?_, hr.counts⟩, fun hu => hu⟩
      obtain ⟨x, hx, ⟨-, rfl⟩ | ⟨-, rfl⟩⟩ := mem_updateJob.mp hmem
      · have hnot := not_active_of_terminal (hf.status x)
        rw [hstatus] at hnot
        cases hnot
      · exact hr.working e he hj job hx hid hstatus

end ScheduledJobProcess

open ScheduledJobProcess in
/-- **The invariant holds in every guarded run.** -/
theorem scheduledJobProgram_sound :
    scheduledJobProgram.SoundFresh ScheduledJobStore.New ScheduledJobsGuarded
      ScheduledJobStore.Sound ScheduledJobStore.Untouched ScheduledJobProcess.Owns where
  init := by
    rintro s ⟨hjobs, hexecutions⟩
    refine ⟨⟨?_, ?_, ?_, ?_, ?_, ?_, ?_⟩, fun i => ?_⟩
    · rw [hjobs]
      exact .nil _
    all_goals simp [ScheduledJobStore.Exclusive, ScheduledJobStore.ExecutedOnce,
      ScheduledJobStore.Untouched, hjobs, hexecutions]
  start := by
    intro i s cycle _ hu
    refine ⟨fun e he hi => absurd hi (hu e he), ?_⟩
    cases cycle <;> trivial
  run := by
    intro w i answer p s q hw hp hok hrun
    have hi := hw.process i p hp
    have hwrites := run_writes hw.store hi.counts (hok p hp) hrun
    exact ⟨hwrites.sound hw.store, hwrites.owns hi⟩
  interference := by
    intro w i answer p s q hw hp hok hrun j hj
    have hwrites := run_writes hw.store (hw.process i p hp).counts (hok p hp) hrun
    obtain ⟨hother, hfresh⟩ := hwrites.interference hw.store hj
    exact ⟨fun r hr => hother r (hw.process j r hr), fun hr => hfresh (hw.fresh j hr)⟩
  outside := fun w e => e.elim

/-! ## No candidate waits for a cycle that is gone -/

lemma ScheduledJobStore.mem_of_findLatest {s : ScheduledJobStore}
    {candidate : ScheduledReconciliationCandidate} {job : ReconciliationJob}
    (h : job ∈ s.findLatestRelatedReconciliationJob candidate) : job ∈ s.jobs := by
  have hmem := List.mem_of_mem_head? h
  rw [List.mem_insertionSort] at hmem
  exact (List.mem_filter.mp hmem).1

/-- A job that is processing is the one a live cycle works on. -/
lemma exists_working {w : ScheduledJobWorld}
    (hw : Program.HoldsFresh ScheduledJobStore.Sound ScheduledJobStore.Untouched
      ScheduledJobProcess.Owns w)
    {job : ReconciliationJob} (hjob : job ∈ w.shared.jobs) (hstatus : job.status = .processing) :
    ∃ i p, w.process i = some p ∧ p.job = some job.id := by
  obtain ⟨e, he, hid⟩ := hw.store.processing job hjob hstatus
  cases hp : w.process e.1 with
  | none => exact absurd rfl (hw.fresh _ hp e he)
  | some p => exact ⟨e.1, p, hp, (hw.process _ p hp).working e he rfl job hjob hid.symm hstatus⟩

lemma jobsRecover_of_holds {w : ScheduledJobWorld}
    (hw : Program.HoldsFresh ScheduledJobStore.Sound ScheduledJobStore.Untouched
      ScheduledJobProcess.Owns w) : JobsRecover w := by
  intro candidate now cooldownMs hlatest
  cases hjob : w.shared.findLatestRelatedReconciliationJob candidate with
  | none => rfl
  | some job =>
      obtain ⟨hpending, hidle, hcooldown⟩ := hlatest job hjob
      have hmem := ScheduledJobStore.mem_of_findLatest hjob
      obtain ⟨hscheduled, hretrying⟩ := hw.store.noRetry job hmem
      have hprocessing : job.status ≠ .processing := by
        intro hstatus
        obtain ⟨i, p, hp, hworks⟩ := exists_working hw hmem hstatus
        exact hidle i p hp hworks
      have hactive : isReconciliationJobActive job.status = false := by
        cases hstatus : job.status <;> first | rfl | contradiction
      have hpassed : isWithinReconciliationCooldown (some (getLatestOperationalJobTimestamp job)) now
          cooldownMs = false := by
        simp only [isWithinReconciliationCooldown, Option.any_some, decide_eq_false_iff_not]
        exact not_lt.mpr hcooldown
      simp [skipReason, hactive, hpassed]

/-! ## Both kinds of reconciliation -/

/-- **Reconciliation work is exclusive and never wedged.**  In guarded runs at most one canonical
run is running, and one that was stopped blocks no later call; at most one job of an allocation is
active, every job is executed once at most, and a candidate whose latest job is neither pending nor
worked on gets another one after the cooldown.  A cycle that is interrupted at its job is outside
of these runs. -/
theorem reconciliation_exclusive_and_recoverable {w : CanonicalWorld} {v : ScheduledJobWorld}
    (hw : canonicalProgram.Reaches CanonicalStore.New CanonicalGuarded w)
    (hv : scheduledJobProgram.Reaches ScheduledJobStore.New ScheduledJobsGuarded v) :
    (w.shared.Exclusive ∧ NeverWedged w) ∧
      v.shared.Exclusive ∧ v.shared.ExecutedOnce ∧ JobsRecover v := by
  have h := scheduledJobProgram_sound.holds hv
  exact ⟨canonicalRuns_locks hw, h.store.exclusive, h.store.once, jobsRecover_of_holds h⟩

section Samples

def sampleCandidate : ScheduledReconciliationCandidate :=
  ⟨"stale_allocation:allocation:1", .staleAllocation, "stale", some "1001", some 1, none, none, 7, 0⟩

/-- Cycle `i` is called and finds the candidate. -/
def sampleFind (i : ℕ) : List (Move ScheduledJobCycle ScheduledJobAnswer Empty) :=
  [.start i (.create ⟨0, 1800000, 25⟩), .run i (.candidates (.ok [sampleCandidate])),
    .run i (.statement 1)]

def sampleInsertJob (i : ℕ) (id : Id) : List (Move ScheduledJobCycle ScheduledJobAnswer Empty) :=
  [.run i (.inserted id 2)]

/-- Cycle `i` is called and lists the due jobs. -/
def sampleDue (i : ℕ) : List (Move ScheduledJobCycle ScheduledJobAnswer Empty) :=
  [.start i (.execute ⟨3, 5⟩), .run i (.statement 3)]

/-- It marks the first one as processing. -/
def sampleProcess (i : ℕ) : List (Move ScheduledJobCycle ScheduledJobAnswer Empty) :=
  [.run i (.statement 4), .run i (.statement 5)]

def sampleComplete (i : ℕ) : List (Move ScheduledJobCycle ScheduledJobAnswer Empty) :=
  [.run i (.reconciled .found), .run i (.statement 6), .run i (.statement 7)]

def sampleJobStore : ScheduledJobStore := ⟨[], []⟩

lemma sampleJobStore_new : sampleJobStore.New := ⟨rfl, rfl⟩

/-- A run that ends, and a job that is completed. -/
theorem reconciliation_exclusive_and_recoverable_completed :
    ∃ (w : CanonicalWorld) (v : ScheduledJobWorld),
      w.shared.runs.map (·.status) = [.completed] ∧ v.shared.jobs.map (·.status) = [.completed] ∧
        NeverWedged w ∧ JobsRecover v := by
  have hrun : Succeeds (runActions (guarded CanonicalGuarded () canonicalProgram.step)
      (sampleCheck 0 ++ sampleStart 0 10 ++ sampleFinish 0) (.init sampleCanonicalStore)) fun w =>
      w.shared.runs.map (·.status) = [.completed] := by
    decide +kernel
  have hjobs : Succeeds (runActions (guarded ScheduledJobsGuarded () scheduledJobProgram.step)
      (sampleFind 0 ++ sampleInsertJob 0 10 ++ sampleDue 1 ++ sampleProcess 1 ++ sampleComplete 1)
      (.init sampleJobStore)) fun w => w.shared.jobs.map (·.status) = [.completed] := by
    decide +kernel
  obtain ⟨w, hw, hstatus⟩ := succeeds_iff.mp hrun
  obtain ⟨v, hv, hcompleted⟩ := succeeds_iff.mp hjobs
  obtain ⟨⟨-, hwedged⟩, -, -, hrecover⟩ := reconciliation_exclusive_and_recoverable
    (reachable_of_runGuarded (.start ⟨_, sampleCanonicalStore_new, rfl⟩) hw)
    (reachable_of_runGuarded (.start ⟨_, sampleJobStore_new, rfl⟩) hv)
  exact ⟨w, v, hstatus, hcompleted, hwedged, hrecover⟩

/-- Both cycles have listed the job. -/
lemma reconciliationJob_executedTwice : ∃ w : ScheduledJobWorld,
    scheduledJobProgram.Reaches ScheduledJobStore.New (fun _ _ => True) w ∧
      ¬w.shared.ExecutedOnce := by
  have hrun : Succeeds (runActions scheduledJobProgram.step
      (sampleFind 0 ++ sampleInsertJob 0 10 ++ sampleDue 1 ++ sampleDue 2 ++ sampleProcess 1 ++
        sampleComplete 1 ++ sampleProcess 2) (.init sampleJobStore)) fun w =>
      w.shared.executions = [(1, 10), (2, 10)] := by
    decide +kernel
  obtain ⟨w, hw, hexecutions⟩ := succeeds_iff.mp hrun
  refine ⟨w, reachable_of_runActions (.start ⟨_, sampleJobStore_new, rfl⟩)
    (fun _ _ _ => trivial) hw, ?_⟩
  unfold ScheduledJobStore.ExecutedOnce
  rw [hexecutions]
  decide

/-- The cycle crashes while it works on the job, and a day later the allocation gets none. -/
lemma reconciliationJob_wedged : ∃ w : ScheduledJobWorld,
    scheduledJobProgram.Reaches ScheduledJobStore.New (fun _ _ => True) w ∧ ¬JobsRecover w := by
  have hrun : Succeeds (runActions scheduledJobProgram.step
      (sampleFind 0 ++ sampleInsertJob 0 10 ++ sampleDue 1 ++ sampleProcess 1 ++
        [.run 1 .crash]) (.init sampleJobStore)) fun w =>
      (∀ p ∈ w.process 0, p.job = none) ∧ (∀ p ∈ w.process 1, p.job = none) ∧
        (∀ job ∈ w.shared.findLatestRelatedReconciliationJob sampleCandidate,
          job.status ≠ .pending ∧ 1800000 ≤ 86400000 - getLatestOperationalJobTimestamp job) ∧
        skipReason (w.shared.findLatestRelatedReconciliationJob sampleCandidate) 86400000 1800000 ≠
          none := by
    decide +kernel
  obtain ⟨w, hw, hzero, hone, hlatest, hskip⟩ := succeeds_iff.mp hrun
  refine ⟨w, reachable_of_runActions (.start ⟨_, sampleJobStore_new, rfl⟩)
    (fun _ _ _ => trivial) hw, fun h => hskip (h _ _ _ fun job hjob => ?_)⟩
  obtain ⟨hstatus, hpassed⟩ := hlatest job hjob
  refine ⟨hstatus, fun i p hp hworks => ?_, hpassed⟩
  have hjobless : p.job = none := by
    by_cases hi : i = 0
    · exact hzero p (hi ▸ hp)
    · by_cases hi' : i = 1
      · exact hone p (hi' ▸ hp)
      · have hnone : w.process i = none := by
          refine Program.process_none_of_runActions rfl (fun m hm input => ?_) hw
          rintro rfl
          simp [sampleFind, sampleInsertJob, sampleDue, sampleProcess, hi, hi'] at hm
        rw [hnone] at hp
        cases hp
  rw [hjobless] at hworks
  cases hworks

/-- Neither kind of reconciliation is exclusive, and neither recovers from a crash. -/
theorem reconciliation_overlaps_and_wedges :
    (∃ w, canonicalProgram.Reaches CanonicalStore.New (fun _ _ => True) w ∧ ¬w.shared.Exclusive) ∧
      (∃ w, canonicalProgram.Reaches CanonicalStore.New (fun _ _ => True) w ∧ ¬NeverWedged w) ∧
      (∃ w, scheduledJobProgram.Reaches ScheduledJobStore.New (fun _ _ => True) w ∧
        ¬w.shared.ExecutedOnce) ∧
      ∃ w, scheduledJobProgram.Reaches ScheduledJobStore.New (fun _ _ => True) w ∧
        ¬JobsRecover w :=
  ⟨canonicalRuns_overlap, canonicalRun_wedged, reconciliationJob_executedTwice,
    reconciliationJob_wedged⟩

end Samples

end VendorDashboard.Reconciliation

import VendorDashboard.OperationalJobs.RetrySchedule
import Mathlib.Tactic.IntervalCases

/-!
# The delays between retries

A job that fails again and again with transient errors is retried after longer and longer delays.
Its delays should double from one minute up to the cap of half an hour.  But the backoff that a
failure reads is the delay that the failure before it stored, and it is multiplied by the whole
power of two once more.

`backoff k` is the backoff of the row after `k` failures.  It is the doubled delay for the first
two failures; the third, the fourth and the fifth store a delay that is too long.
-/

namespace VendorDashboard.OperationalJobs

open Finance (Id Instant)
open Reconciliation (JobFailure getRetryDelayMs classifyOperationalFailure markOperationalJobFailed)

/-- A failure that a later attempt may not meet again. -/
def TransientRetryable (failure : JobFailure) : Prop :=
  failure.retryable = true ∧
    failure.category.getD (classifyOperationalFailure failure.error) = .transient

instance (failure : JobFailure) : Decidable (TransientRetryable failure) :=
  inferInstanceAs (Decidable (_ ∧ _))

def Call.IsFailureOf (id : Id) : Call → Prop
  | .failed jobId _ _ => jobId = some id
  | .processing _ _ | .retrying _ _ => False

instance (id : Id) : DecidablePred (Call.IsFailureOf id) := fun call => by
  unfold Call.IsFailureOf
  split <;> infer_instance

/-- The failures of a job in a sequence of calls. -/
def failureCount (id : Id) (calls : List Call) : ℕ :=
  calls.countP fun call => decide (call.IsFailureOf id)

/-- The delay after the `k`-th failure: one minute, doubled with each failure, up to half an hour. -/
def doubledDelay (k : ℕ) : ℕ := min (60000 * 2 ^ (k - 1)) 1800000

/-- What the `k`-th failure of a job should leave in its row. -/
structure RetryRecorded (maxRetries : ℤ) (k : ℕ) (now : Instant) (job : OperationalJob) : Prop where
  retryCount : job.retryCount = k
  retryScheduled : job.status = .retryScheduled ↔ (k : ℤ) < maxRetries
  deadLetterReady : job.status = .deadLetterReady ↔ maxRetries ≤ k
  nextRetryAt : (k : ℤ) < maxRetries → job.nextRetryAt = some (now + doubledDelay k)

/-- Each failure in the sequence of calls leaves what it should in the row of the job. -/
def RetriesDouble (id : Id) (maxRetries : ℤ) (jobs : OperationalJobTable) (calls : List Call) :
    Prop :=
  ∀ before failure now after, calls = before ++ .failed (some id) failure now :: after →
    ∃ job, findJob id (runCalls jobs (before ++ [.failed (some id) failure now])) = some job ∧
      RetryRecorded maxRetries (failureCount id before + 1) now job

/-! ## The backoff -/

/-- The backoff of a row after `k` failures. -/
def backoff : ℕ → ℕ
  | 0 => 60000
  | k + 1 => getRetryDelayMs k (some (backoff k))

lemma backoff_eq_doubledDelay {k : ℕ} (hpos : 1 ≤ k) (hk : k ≤ 2) :
    backoff k = doubledDelay k := by
  interval_cases k <;> rfl

/-! ## Runs -/

/-- The row after `k` transient failures. -/
structure AfterFailures (maxRetries : ℤ) (k : ℕ) (job : OperationalJob) : Prop where
  retryCount : job.retryCount = k
  maxRetries : job.maxRetries = maxRetries
  retryBackoffMs : job.retryBackoffMs = some (backoff k)

/-- What a failure leaves in the row. -/
lemma AfterFailures.markFailed {maxRetries : ℤ} {k : ℕ} {job : OperationalJob}
    (h : AfterFailures maxRetries k job) (failure : JobFailure) (now : Instant) :
    AfterFailures maxRetries (k + 1) (job.markFailed failure now) := by
  refine ⟨congrArg (· + 1) h.retryCount, h.maxRetries, ?_⟩
  change some (getRetryDelayMs job.retryCount job.retryBackoffMs) = some (backoff (k + 1))
  rw [h.retryCount, h.retryBackoffMs]
  rfl

/-- The status and the time of the next retry after a transient failure. -/
lemma AfterFailures.markFailed_transient {maxRetries : ℤ} {k : ℕ} {job : OperationalJob}
    (h : AfterFailures maxRetries k job) {failure : JobFailure} (hf : TransientRetryable failure)
    (now : Instant) :
    (job.markFailed failure now).status =
        (if maxRetries ≤ (k : ℤ) + 1 then .deadLetterReady else .retryScheduled) ∧
      (job.markFailed failure now).nextRetryAt =
        if maxRetries ≤ (k : ℤ) + 1 then none else some (now + backoff (k + 1)) := by
  obtain ⟨hretry, hcategory⟩ := hf
  have hdelay : getRetryDelayMs k job.retryBackoffMs = backoff (k + 1) := by
    rw [h.retryBackoffMs]
    rfl
  unfold OperationalJob.markFailed markOperationalJobFailed
  simp only [hretry, hcategory, h.retryCount, hdelay, h.maxRetries, Nat.cast_add, Nat.cast_one]
  by_cases hmax : maxRetries ≤ (k : ℤ) + 1
  · have hlt : ¬ (k : ℤ) + 1 < maxRetries := by omega
    simp [hmax, hlt]
  · have hlt : (k : ℤ) + 1 < maxRetries := by omega
    simp [hmax, hlt]

lemma failureCount_singleton (id : Id) (call : Call) :
    failureCount id [call] = if call.IsFailureOf id then 1 else 0 := by
  unfold failureCount
  rw [List.countP_singleton]
  simp only [decide_eq_true_eq]

/-- A failure counts beyond the ones before it. -/
lemma failureCount_lt (id : Id) (before : List Call) (failure : JobFailure) (now : Instant)
    (after : List Call) :
    failureCount id before < failureCount id (before ++ .failed (some id) failure now :: after) := by
  unfold failureCount
  rw [List.countP_append]
  have hpos : 0 < List.countP (fun call : Call => decide (call.IsFailureOf id))
      (.failed (some id) failure now :: after) :=
    List.countP_pos_iff.mpr ⟨_, List.mem_cons_self, decide_eq_true rfl⟩
  omega

/-- The calls count the failures of the job in its row. -/
lemma AfterFailures.applyTo {id : Id} {maxRetries : ℤ} {k : ℕ} {job : OperationalJob}
    (h : AfterFailures maxRetries k job) (call : Call) :
    AfterFailures maxRetries (k + failureCount id [call]) (call.applyTo id job) := by
  rw [failureCount_singleton]
  cases call with
  | processing jobId now =>
      have hnot : ¬ (Call.processing jobId now).IsFailureOf id := fun hf => hf
      rw [if_neg hnot, Nat.add_zero]
      by_cases hid : some id = jobId
      · simp only [Call.applyTo, if_pos hid]
        exact ⟨h.retryCount, h.maxRetries, h.retryBackoffMs⟩
      · simpa only [Call.applyTo, if_neg hid] using h
  | retrying jobId now =>
      have hnot : ¬ (Call.retrying jobId now).IsFailureOf id := fun hf => hf
      rw [if_neg hnot, Nat.add_zero]
      by_cases hid : some id = jobId
      · simp only [Call.applyTo, if_pos hid]
        exact ⟨h.retryCount, h.maxRetries, h.retryBackoffMs⟩
      · simpa only [Call.applyTo, if_neg hid] using h
  | failed jobId failure now =>
      by_cases hid : some id = jobId
      · have hfailure : (Call.failed jobId failure now).IsFailureOf id := hid.symm
        simp only [Call.applyTo, if_pos hid, if_pos hfailure]
        exact h.markFailed failure now
      · have hnot : ¬ (Call.failed jobId failure now).IsFailureOf id := fun heq => hid heq.symm
        simpa only [Call.applyTo, if_neg hid, if_neg hnot, Nat.add_zero] using h

/-- The row of a job after a sequence of calls. -/
lemma afterFailures_runCalls {id : Id} {maxRetries : ℤ} {jobs : OperationalJobTable}
    {job : OperationalJob} (hjob : findJob id jobs = some job)
    (h : AfterFailures maxRetries 0 job) (calls : List Call) :
    ∃ job', findJob id (runCalls jobs calls) = some job' ∧
      AfterFailures maxRetries (failureCount id calls) job' := by
  induction calls using List.reverseRecOn with
  | nil => exact ⟨job, hjob, h⟩
  | append_singleton calls call ih =>
      obtain ⟨job', hfind, hafter⟩ := ih
      refine ⟨call.applyTo id job', ?_, ?_⟩
      · rw [runCalls_concat, findJob_applyCall, hfind]
        rfl
      · have hcount : failureCount id (calls ++ [call]) =
            failureCount id calls + failureCount id [call] := List.countP_append
        rw [hcount]
        exact hafter.applyTo call

/-- The row right after a failure. -/
lemma findJob_failed {id : Id} {maxRetries : ℤ} {jobs : OperationalJobTable} {job : OperationalJob}
    (hjob : findJob id jobs = some job) (h : AfterFailures maxRetries 0 job) (before : List Call)
    (failure : JobFailure) (now : Instant) :
    ∃ job', AfterFailures maxRetries (failureCount id before) job' ∧
      findJob id (runCalls jobs (before ++ [.failed (some id) failure now])) =
        some (job'.markFailed failure now) := by
  obtain ⟨job', hfind, hafter⟩ := afterFailures_runCalls hjob h before
  refine ⟨job', hafter, ?_⟩
  rw [runCalls_concat, findJob_applyCall, hfind, Option.map_some]
  simp only [Call.applyTo, if_true]

/-- A failure is recorded as it should be when its delay is the doubled one or is not used. -/
lemma AfterFailures.retryRecorded_iff {maxRetries : ℤ} {k : ℕ} {job : OperationalJob}
    (h : AfterFailures maxRetries k job) {failure : JobFailure} (hf : TransientRetryable failure)
    (now : Instant) :
    RetryRecorded maxRetries (k + 1) now (job.markFailed failure now) ↔
      ((k : ℤ) + 1 < maxRetries → backoff (k + 1) = doubledDelay (k + 1)) := by
  obtain ⟨hstatus, hnext⟩ := h.markFailed_transient hf now
  have hcast : ((k + 1 : ℕ) : ℤ) = (k : ℤ) + 1 := by omega
  constructor
  · intro hrecorded hlt
    have hsome := hrecorded.nextRetryAt (by omega)
    rw [hnext, if_neg (by omega)] at hsome
    have heq := Option.some.inj hsome
    have hdelay : ((backoff (k + 1) : ℕ) : ℤ) = (doubledDelay (k + 1) : ℕ) :=
      add_left_cancel heq
    exact_mod_cast hdelay
  · intro hdelay
    refine ⟨(h.markFailed failure now).retryCount, ?_, ?_, ?_⟩
    · rw [hstatus, hcast]
      split
      · rename_i hle
        exact ⟨fun heq => (by cases heq), fun hlt => absurd hlt (by omega)⟩
      · rename_i hlt
        exact ⟨fun _ => by omega, fun _ => rfl⟩
    · rw [hstatus, hcast]
      split
      · rename_i hle
        exact ⟨fun _ => hle, fun _ => rfl⟩
      · rename_i hlt
        exact ⟨fun heq => (by cases heq), fun hle => absurd hle hlt⟩
    · intro hlt
      rw [hcast] at hlt
      rw [hnext, if_neg (by omega), hdelay hlt]

/-- An element with exactly `n` of its kind before it. -/
lemma exists_split_of_lt_countP {α : Type*} {p : α → Bool} {n : ℕ} {l : List α}
    (h : n < l.countP p) : ∃ l₁ a l₂, l = l₁ ++ a :: l₂ ∧ p a = true ∧ l₁.countP p = n := by
  induction l generalizing n with
  | nil => simp at h
  | cons a l ih =>
      by_cases ha : p a = true
      · cases n with
        | zero => exact ⟨[], a, l, rfl, ha, rfl⟩
        | succ n =>
            rw [List.countP_cons_of_pos ha] at h
            obtain ⟨l₁, b, l₂, rfl, hb, hcount⟩ := ih (Nat.lt_of_succ_lt_succ h)
            exact ⟨a :: l₁, b, l₂, rfl, hb, by rw [List.countP_cons_of_pos ha, hcount]⟩
      · rw [List.countP_cons_of_neg ha] at h
        obtain ⟨l₁, b, l₂, rfl, hb, hcount⟩ := ih h
        exact ⟨a :: l₁, b, l₂, rfl, hb, by rw [List.countP_cons_of_neg ha, hcount]⟩

/-- **The delays double** exactly when the job fails no more than twice, or when no more than two
of its failures are retried. -/
theorem retriesDouble_iff {input : CreateOperationalJobInput} {id : Id} {createdAt : Instant}
    {jobs jobs' : OperationalJobTable}
    (hcreated : createOperationalJob input id createdAt jobs = some jobs') {calls : List Call}
    (htransient : ∀ failure now, .failed (some id) failure now ∈ calls →
      TransientRetryable failure) :
    RetriesDouble id (input.maxRetries.getD 3) jobs' calls ↔
      failureCount id calls ≤ 2 ∨ input.maxRetries.getD 3 ≤ 3 := by
  have hjob := findJob_createOperationalJob hcreated
  have hstart : AfterFailures (input.maxRetries.getD 3) 0 (input.row id createdAt) :=
    ⟨rfl, rfl, rfl⟩
  constructor
  · intro hdouble
    by_contra hmany
    obtain ⟨hcount, hmax⟩ := not_or.mp hmany
    -- The third failure is retried, and its delay is eight minutes instead of four.
    obtain ⟨before, call, after, rfl, hcall, hbefore⟩ :=
      exists_split_of_lt_countP (n := 2) (not_le.mp hcount)
    cases call with
    | processing jobId now => exact (of_decide_eq_true hcall).elim
    | retrying jobId now => exact (of_decide_eq_true hcall).elim
    | failed jobId failure now =>
        obtain rfl : jobId = some id := of_decide_eq_true hcall
        obtain ⟨job, hfind, hrecorded⟩ := hdouble before failure now after rfl
        obtain ⟨job', hafter, hfind'⟩ := findJob_failed hjob hstart before failure now
        obtain rfl := Option.some.inj (hfind.symm.trans hfind')
        have hbefore' : failureCount id before = 2 := hbefore
        have hdelay := (hafter.retryRecorded_iff (htransient failure now (by simp)) now).mp
          hrecorded (by omega)
        rw [hbefore'] at hdelay
        exact absurd hdelay (by decide)
  · intro hfew before failure now after hcalls
    obtain ⟨job', hafter, hfind⟩ := findJob_failed hjob hstart before failure now
    refine ⟨_, hfind, (hafter.retryRecorded_iff (htransient failure now ?_) now).mpr ?_⟩
    · rw [hcalls]
      simp
    · intro hlt
      have hle : failureCount id before + 1 ≤ 2 := by
        rcases hfew with hcount | hmax
        · have hmore := failureCount_lt id before failure now after
          rw [← hcalls] at hmore
          omega
        · omega
      exact backoff_eq_doubledDelay (by omega) hle

/-- A webhook job with four retries, and two attempts at it that time out. -/
def webhookJob : CreateOperationalJobInput where
  jobType := .webhookProcessing
  payload := none
  payloadRef := none
  webhookEventId := none
  sourceShopifyOrderId := none
  vendorAllocationId := none
  refundRecordId := none
  returnRecordId := none
  priority := none
  scheduledAt := none
  maxRetries := some 4

def timeout : JobFailure := ⟨"timeout", some .transient, true⟩

def failedTwice : List Call :=
  [.processing (some 1) 0, .failed (some 1) timeout 10, .retrying (some 1) 60010,
    .failed (some 1) timeout 60020]

def failedThreeTimes : List Call := failedTwice ++ [.failed (some 1) timeout 180020]

theorem retriesDouble_iff_sample :
    RetriesDouble 1 4 [webhookJob.row 1 0] failedTwice := by
  refine (@retriesDouble_iff webhookJob _ 0 [] _ rfl _ ?_).mpr
    (Or.inl (by decide))
  intro failure now hmem
  have hfailure : failure = timeout := by
    simp only [failedTwice, List.mem_cons, List.not_mem_nil, Call.failed.injEq, reduceCtorEq,
      false_or, or_false] at hmem
    rcases hmem with ⟨-, hfailure, -⟩ | ⟨-, hfailure, -⟩
    · exact hfailure
    · exact hfailure
  rw [hfailure]
  decide

/-- The third failure of a job with four retries is retried after eight minutes, not after four. -/
theorem retryDelay_third_failure :
    (findJob 1 (runCalls [webhookJob.row 1 0] failedThreeTimes)).bind (·.nextRetryAt) =
        some (180020 + 480000) ∧
      ¬ RetriesDouble 1 4 [webhookJob.row 1 0] failedThreeTimes := by
  refine ⟨by decide +kernel, fun hdouble => ?_⟩
  obtain ⟨job, hfind, hrecorded⟩ := hdouble failedTwice timeout 180020 [] rfl
  have hnext : job.nextRetryAt = some (180020 + 480000) := by
    have hrow : (findJob 1 (runCalls [webhookJob.row 1 0] failedThreeTimes)).bind (·.nextRetryAt) =
        some (180020 + 480000) := by decide +kernel
    have hrow' : (findJob 1 (runCalls [webhookJob.row 1 0] failedThreeTimes)).bind
        (·.nextRetryAt) = job.nextRetryAt := by
      rw [show failedThreeTimes = failedTwice ++ [.failed (some 1) timeout 180020] from rfl, hfind]
      rfl
    exact hrow'.symm.trans hrow
  have hdoubled := hrecorded.nextRetryAt (by decide)
  rw [hnext] at hdoubled
  exact absurd hdoubled (by decide)

end VendorDashboard.OperationalJobs

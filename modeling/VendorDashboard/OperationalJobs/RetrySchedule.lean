import VendorDashboard.Reconciliation.ScheduledJobs

/-!
# Operational jobs and their retries

The rows of the operational jobs and the calls that record what became of an attempt.  A job is
created with a backoff of one minute.  A failure reads the backoff of the row, multiplies it by a
power of two of the failures before, and stores the product, capped at half an hour, as the
backoff of the row.

`applyCall` is one call, `runCalls` a sequence of them on any jobs of the table.
-/

namespace VendorDashboard.OperationalJobs

open Finance (Id Instant)
open Orders (OperationalJobStatus)
open Reconciliation (JobFailure OperationalJobFailureCategory markOperationalJobFailed)
open Table

inductive OperationalJobType
  | webhookProcessing | reconciliation | replay | recovery | fulfillmentSync | refundSync
  | returnSync
  deriving DecidableEq

structure OperationalJob where
  id : Id
  jobType : OperationalJobType
  status : OperationalJobStatus
  payload : Option String
  payloadRef : Option String
  webhookEventId : Option Id
  sourceShopifyOrderId : Option String
  vendorAllocationId : Option Id
  refundRecordId : Option Id
  returnRecordId : Option Id
  priority : ℤ
  retryCount : ℕ
  maxRetries : ℤ
  scheduledAt : Instant
  nextRetryAt : Option Instant
  lastAttemptAt : Option Instant
  retryBackoffMs : Option ℕ
  startedAt : Option Instant
  completedAt : Option Instant
  failedAt : Option Instant
  errorSummary : Option String
  failureCategory : Option OperationalJobFailureCategory
  escalationReason : Option String
  deriving DecidableEq

structure CreateOperationalJobInput where
  jobType : OperationalJobType
  payload : Option String
  payloadRef : Option String
  webhookEventId : Option Id
  sourceShopifyOrderId : Option String
  vendorAllocationId : Option Id
  refundRecordId : Option Id
  returnRecordId : Option Id
  priority : Option ℤ
  scheduledAt : Option Instant
  maxRetries : Option ℤ

namespace CreateOperationalJobInput

variable (input : CreateOperationalJobInput)

/-- The row of `createOperationalJob`, under a generated identifier. -/
def row (id : Id) (now : Instant) : OperationalJob where
  id
  jobType := input.jobType
  status := .pending
  payload := input.payload
  payloadRef := input.payloadRef
  webhookEventId := input.webhookEventId
  sourceShopifyOrderId := input.sourceShopifyOrderId
  vendorAllocationId := input.vendorAllocationId
  refundRecordId := input.refundRecordId
  returnRecordId := input.returnRecordId
  priority := input.priority.getD 0
  retryCount := 0
  maxRetries := input.maxRetries.getD 3
  scheduledAt := input.scheduledAt.getD now
  nextRetryAt := none
  lastAttemptAt := none
  retryBackoffMs := some 60000
  startedAt := none
  completedAt := none
  failedAt := none
  errorSummary := none
  failureCategory := none
  escalationReason := none

end CreateOperationalJobInput

abbrev OperationalJobTable := List OperationalJob

/-- `createOperationalJob`: the insert fails when its identifier is in use. -/
def createOperationalJob (input : CreateOperationalJobInput) (id : Id) (now : Instant)
    (jobs : OperationalJobTable) : Option OperationalJobTable :=
  if id ∈ jobs.map (·.id) then none else some (jobs ++ [input.row id now])

namespace OperationalJob

variable (job : OperationalJob)

/-- The update of `markOperationalJobProcessing`. -/
def markProcessing (now : Instant) : OperationalJob :=
  { job with
    status := .processing
    startedAt := some now
    lastAttemptAt := some now
    errorSummary := none
    escalationReason := none }

/-- The update of `markOperationalJobRetrying`. -/
def markRetrying (now : Instant) : OperationalJob :=
  { job with
    status := .retrying
    startedAt := some now
    lastAttemptAt := some now
    nextRetryAt := none
    escalationReason := none }

/-- `markOperationalJobFailed`. -/
def markFailed (failure : JobFailure) (failedAt : Instant) : OperationalJob :=
  let update := markOperationalJobFailed ⟨job.retryCount, job.maxRetries, job.retryBackoffMs⟩
    failure failedAt
  { job with
    status := update.status
    retryCount := job.retryCount + 1
    failedAt := some failedAt
    lastAttemptAt := some failedAt
    nextRetryAt := update.nextRetryAt
    retryBackoffMs := some update.retryBackoffMs
    errorSummary := some update.errorSummary
    failureCategory := some update.failureCategory
    escalationReason := update.escalationReason }

end OperationalJob

/-! ## Calls -/

inductive Call
  | processing (jobId : Option Id) (now : Instant)
  | retrying (jobId : Option Id) (now : Instant)
  | failed (jobId : Option Id) (failure : JobFailure) (now : Instant)

def updateJob (jobId : Option Id) (f : OperationalJob → OperationalJob)
    (jobs : OperationalJobTable) : OperationalJobTable :=
  updateWhere (fun job => decide (some job.id = jobId)) f jobs

/-- One call.  A call without a job, or for a job that is not there, changes nothing. -/
def applyCall (jobs : OperationalJobTable) : Call → OperationalJobTable
  | .processing jobId now => updateJob jobId (·.markProcessing now) jobs
  | .retrying jobId now => updateJob jobId (·.markRetrying now) jobs
  | .failed jobId failure now => updateJob jobId (·.markFailed failure now) jobs

def runCalls (jobs : OperationalJobTable) (calls : List Call) : OperationalJobTable :=
  calls.foldl applyCall jobs

lemma runCalls_append (jobs : OperationalJobTable) (calls calls' : List Call) :
    runCalls jobs (calls ++ calls') = runCalls (runCalls jobs calls) calls' :=
  List.foldl_append

lemma runCalls_concat (jobs : OperationalJobTable) (calls : List Call) (call : Call) :
    runCalls jobs (calls ++ [call]) = applyCall (runCalls jobs calls) call :=
  runCalls_append jobs calls [call]

/-! ## The row of one job -/

def findJob (id : Id) (jobs : OperationalJobTable) : Option OperationalJob :=
  findRow OperationalJob.id id jobs

@[simp] lemma OperationalJob.markProcessing_id (job : OperationalJob) (now : Instant) :
    (job.markProcessing now).id = job.id := rfl

@[simp] lemma OperationalJob.markRetrying_id (job : OperationalJob) (now : Instant) :
    (job.markRetrying now).id = job.id := rfl

@[simp] lemma OperationalJob.markFailed_id (job : OperationalJob) (failure : JobFailure)
    (now : Instant) : (job.markFailed failure now).id = job.id := rfl

lemma findJob_updateJob {f : OperationalJob → OperationalJob} (hid : ∀ job, (f job).id = job.id)
    (jobId : Option Id) (id : Id) (jobs : OperationalJobTable) :
    findJob id (updateJob jobId f jobs) =
      (findJob id jobs).map fun job => if some id = jobId then f job else job := by
  have hkey : ∀ job : OperationalJob,
      (if decide (some job.id = jobId) then f job else job).id = job.id := by
    intro job
    split
    · exact hid job
    · rfl
  unfold findJob updateJob updateWhere
  rw [findRow_map hkey]
  cases h : findRow OperationalJob.id id jobs with
  | none => rfl
  | some job =>
      have hjob : job.id = id := key_of_findRow h
      simp [hjob]

/-- What a call does to the row of a job. -/
def Call.applyTo (id : Id) (job : OperationalJob) : Call → OperationalJob
  | .processing jobId now => if some id = jobId then job.markProcessing now else job
  | .retrying jobId now => if some id = jobId then job.markRetrying now else job
  | .failed jobId failure now => if some id = jobId then job.markFailed failure now else job

/-- A call reads and writes the row of its own job only. -/
lemma findJob_applyCall (id : Id) (jobs : OperationalJobTable) (call : Call) :
    findJob id (applyCall jobs call) = (findJob id jobs).map fun job => call.applyTo id job := by
  cases call with
  | processing jobId now => exact findJob_updateJob (·.markProcessing_id now) jobId id jobs
  | retrying jobId now => exact findJob_updateJob (·.markRetrying_id now) jobId id jobs
  | failed jobId failure now =>
      exact findJob_updateJob (·.markFailed_id failure now) jobId id jobs

/-- The row of a job that was just created. -/
lemma findJob_createOperationalJob {input : CreateOperationalJobInput} {id : Id} {now : Instant}
    {jobs jobs' : OperationalJobTable} (h : createOperationalJob input id now jobs = some jobs') :
    findJob id jobs' = some (input.row id now) := by
  unfold createOperationalJob at h
  split at h
  · cases h
  · rename_i hnew
    obtain rfl := Option.some.inj h
    have hnone : jobs.find? (fun job => decide (job.id = id)) = none := by
      rw [List.find?_eq_none]
      intro job hjob hid
      exact hnew (List.mem_map.mpr ⟨job, hjob, of_decide_eq_true hid⟩)
    unfold findJob findRow
    rw [List.find?_append, hnone]
    simp [CreateOperationalJobInput.row]

end VendorDashboard.OperationalJobs

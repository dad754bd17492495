import VendorDashboard.Framework.Interleaving
import VendorDashboard.Framework.Table
import VendorDashboard.Framework.Text
import VendorDashboard.Framework.Timestamp
import VendorDashboard.Orders.AutoRefundExecutor
import Mathlib.Data.List.Sort

/-!
# Scheduled reconciliation jobs

The two cycles over the reconciliation jobs.  `createScheduledReconciliationJobs` reads for each
candidate the job that was created last for its allocation, and inserts a job unless that one is
active or finished a short time ago.  `executeDueScheduledReconciliationJobs` lists the due jobs and
takes them one by one: it marks the job as processing, reconciles, and records the outcome.

Any number of cycles run at once, in any number of processes, and each may crash between its
statements.  The candidates, the outcome of a reconciliation and the clock come from outside.

`executions` is not a table: it records which cycle has marked which job as processing.
-/

namespace VendorDashboard.Reconciliation

open Finance (Id Instant)
open Orders (OperationalJobStatus)
open Interleaving Table Text

inductive OperationalJobFailureCategory
  | transient | validation | reconciliationRequired | permanent | duplicateNoop
  deriving DecidableEq

inductive ScheduledReconciliationCandidateType
  | staleAllocation | missingRefundLedger | trackingMismatch | cancelledFulfillmentMarkedFulfilled
  | staleShipmentTimestamp | retryDeadLetter | reconciliationOverdue
  deriving DecidableEq

structure ScheduledReconciliationCandidate where
  key : String
  type : ScheduledReconciliationCandidateType
  reason : String
  sourceShopifyOrderId : Option String
  vendorAllocationId : Option Id
  refundRecordId : Option Id
  returnRecordId : Option Id
  priority : ℤ
  detectedAt : Instant
  deriving DecidableEq

structure ReconciliationJob where
  id : Id
  status : OperationalJobStatus
  priority : ℤ
  /-- The payload: the key, the type and the reason of the candidate, and when it was detected. -/
  payload : String × ScheduledReconciliationCandidateType × String × Instant
  sourceShopifyOrderId : Option String
  vendorAllocationId : Option Id
  refundRecordId : Option Id
  returnRecordId : Option Id
  retryCount : ℕ
  maxRetries : ℕ
  scheduledAt : Instant
  nextRetryAt : Option Instant
  lastAttemptAt : Option Instant
  retryBackoffMs : Option ℕ
  startedAt : Option Instant
  completedAt : Option Instant
  failedAt : Option Instant
  errorSummary : Option String
  failureCategory : Option OperationalJobFailureCategory
  escalationReason : Option String
  createdAt : Instant
  deriving DecidableEq

/-! ## Failures -/

def summarizeOperationalError (message : String) : String :=
  if 500 < utf16Length message then slice 497 message ++ "..." else message

def classifyOperationalFailure (error : String) : OperationalJobFailureCategory :=
  let message := toLowerCase (summarizeOperationalError error)
  if ["duplicate", "already processed", "no-op"].any (includes message) then .duplicateNoop
  else if ["timeout", "timed out", "rate limit", "429", "503", "502", "network", "econn",
      "temporar"].any (includes message) then .transient
  else if ["seller_info", "canonical", "mapping", "reconciliation"].any (includes message) then
    .reconciliationRequired
  else if ["missing", "invalid", "unknown vendor", "unresolved", "did not include",
      "not found"].any (includes message) then .validation
  else if ["permanent", "not recoverable"].any (includes message) then .permanent
  else .transient

def getRetryDelayMs (retryCount : ℕ) (retryBackoffMs : Option ℕ) : ℕ :=
  min (retryBackoffMs.getD 60000 * 2 ^ retryCount) (30 * 60000)

/-- What `markOperationalJobFailed` is called with. -/
structure JobFailure where
  error : String
  category : Option OperationalJobFailureCategory
  retryable : Bool

namespace JobFailure

def ofError (error : String) : JobFailure := ⟨error, none, true⟩

def missingLinkage : JobFailure :=
  ⟨"Scheduled reconciliation job is missing allocation/order linkage.", some .validation, false⟩

def targetNotFound : JobFailure :=
  ⟨"Scheduled reconciliation target was not found.", some .validation, false⟩

end JobFailure

/-- The columns that `markOperationalJobFailed` reads before its update. -/
structure FailureCounts where
  retryCount : ℕ
  maxRetries : ℤ
  retryBackoffMs : Option ℕ

/-- What `markOperationalJobFailed` writes, apart from the retry count that it increments. -/
structure FailureUpdate where
  status : OperationalJobStatus
  nextRetryAt : Option Instant
  retryBackoffMs : ℕ
  errorSummary : String
  failureCategory : OperationalJobFailureCategory
  escalationReason : Option String

/-- The update of `markOperationalJobFailed`, from the columns that it has read. -/
def markOperationalJobFailed (counts : FailureCounts) (failure : JobFailure) (failedAt : Instant) :
    FailureUpdate :=
  let category := failure.category.getD (classifyOperationalFailure failure.error)
  let nextRetryCount := counts.retryCount + 1
  let transient := failure.retryable && decide (category = .transient)
  let canRetry := transient && decide ((nextRetryCount : ℤ) < counts.maxRetries)
  let exhaustedRetries := transient && decide (counts.maxRetries ≤ nextRetryCount)
  let retryDelayMs := getRetryDelayMs counts.retryCount counts.retryBackoffMs
  let nextRetryAt := failedAt + retryDelayMs
  { status := if exhaustedRetries then .deadLetterReady
      else if category = .permanent then .permanentlyFailed
      else if canRetry then .retryScheduled
      else .failed
    nextRetryAt := if canRetry then some nextRetryAt else none
    retryBackoffMs := retryDelayMs
    errorSummary := summarizeOperationalError failure.error
    failureCategory := category
    escalationReason :=
      if exhaustedRetries then some ("Retry attempts exhausted after " ++ toString nextRetryCount ++
        "/" ++ toString counts.maxRetries ++ ". Manual intervention required.")
      else if canRetry then some ("Transient failure scheduled for retry at " ++
        Timestamp.toISOString nextRetryAt ++ ".")
      else match category with
        | .reconciliationRequired => some
            "Canonical Shopify reconciliation or mapping review is required before retry."
        | .validation => some "Validation failure is not automatically retryable."
        | .duplicateNoop => some "Duplicate/no-op outcome is not automatically retryable."
        | .transient | .permanent => none }

namespace ReconciliationJob

variable (job : ReconciliationJob)

def failureCounts : FailureCounts := ⟨job.retryCount, job.maxRetries, job.retryBackoffMs⟩

/-- The job that is created for a candidate. -/
def ofCandidate (candidate : ScheduledReconciliationCandidate) (id : Id) (now createdAt : Instant) :
    ReconciliationJob where
  id
  status := .pending
  priority := candidate.priority
  payload := (candidate.key, candidate.type, candidate.reason, candidate.detectedAt)
  sourceShopifyOrderId := candidate.sourceShopifyOrderId
  vendorAllocationId := candidate.vendorAllocationId
  refundRecordId := candidate.refundRecordId
  returnRecordId := candidate.returnRecordId
  retryCount := 0
  maxRetries := 1
  scheduledAt := now
  nextRetryAt := none
  lastAttemptAt := none
  retryBackoffMs := some 60000
  startedAt := none
  completedAt := none
  failedAt := none
  errorSummary := none
  failureCategory := none
  escalationReason := none
  createdAt

/-- `markOperationalJobProcessing`. -/
def markProcessing (now : Instant) : ReconciliationJob :=
  { job with
    status := .processing
    startedAt := some now
    lastAttemptAt := some now
    errorSummary := none
    escalationReason := none }

/-- `markOperationalJobCompleted`. -/
def markCompleted (now : Instant) : ReconciliationJob :=
  { job with
    status := .completed
    completedAt := some now
    failedAt := none
    errorSummary := none
    failureCategory := none
    escalationReason := none
    nextRetryAt := none }

/-- `markOperationalJobFailed`, from the columns that it has read. -/
def markFailed (counts : FailureCounts) (failure : JobFailure) (now : Instant) :
    ReconciliationJob :=
  let update := markOperationalJobFailed counts failure now
  { job with
    status := update.status
    retryCount := job.retryCount + 1
    failedAt := some now
    lastAttemptAt := some now
    nextRetryAt := update.nextRetryAt
    retryBackoffMs := some update.retryBackoffMs
    errorSummary := some update.errorSummary
    failureCategory := some update.failureCategory
    escalationReason := update.escalationReason }

end ReconciliationJob

/-! ## The store -/

structure ScheduledJobStore where
  jobs : List ReconciliationJob
  /-- The cycles that marked jobs as processing, with the jobs. -/
  executions : List (ℕ × Id)

namespace ScheduledJobStore

variable (s : ScheduledJobStore)

def findJob (id : Id) : Option ReconciliationJob := findRow ReconciliationJob.id id s.jobs

def insert (job : ReconciliationJob) : Option ScheduledJobStore :=
  if job.id ∈ s.jobs.map (·.id) then none else some { s with jobs := s.jobs ++ [job] }

def updateJob (id : Id) (f : ReconciliationJob → ReconciliationJob) : ScheduledJobStore :=
  { s with jobs := updateWhere (fun job => decide (job.id = id)) f s.jobs }

/-- Cycle `i` marks the job as processing. -/
def markProcessing (i : ℕ) (id : Id) (now : Instant) : ScheduledJobStore :=
  { s.updateJob id (·.markProcessing now) with executions := s.executions ++ [(i, id)] }

end ScheduledJobStore

/-! ## Creating jobs -/

def ACTIVE_RECONCILIATION_JOB_STATUSES : List OperationalJobStatus :=
  [.pending, .processing, .retryScheduled, .retrying]

def TERMINAL_RECONCILIATION_JOB_STATUSES : List OperationalJobStatus :=
  [.completed, .failed, .deadLetterReady, .permanentlyFailed]

def isReconciliationJobActive (status : OperationalJobStatus) : Bool :=
  decide (status ∈ ACTIVE_RECONCILIATION_JOB_STATUSES)

def isWithinReconciliationCooldown (latestJobAt : Option Instant) (now : Instant)
    (cooldownMs : ℤ) : Bool :=
  latestJobAt.any fun t => decide (now - t < cooldownMs)

def getLatestOperationalJobTimestamp (job : ReconciliationJob) : Instant :=
  ((job.lastAttemptAt.or job.completedAt).or job.failedAt).getD job.createdAt

/-- The job is linked to the candidate: by its allocation, or by its order when it has none. -/
def ScheduledReconciliationCandidate.Related (candidate : ScheduledReconciliationCandidate)
    (job : ReconciliationJob) : Prop :=
  match candidate.vendorAllocationId, candidate.sourceShopifyOrderId with
  | some allocation, _ => job.vendorAllocationId = some allocation
  | none, some order => job.sourceShopifyOrderId = some order
  | none, none => False

instance (candidate : ScheduledReconciliationCandidate) (job : ReconciliationJob) :
    Decidable (candidate.Related job) := by
  unfold ScheduledReconciliationCandidate.Related
  split <;> infer_instance

/-- The related job that was created last. -/
def ScheduledJobStore.findLatestRelatedReconciliationJob (s : ScheduledJobStore)
    (candidate : ScheduledReconciliationCandidate) : Option ReconciliationJob :=
  let related := s.jobs.filter fun job => decide (candidate.Related job)
  (related.insertionSort fun job job' => job'.createdAt ≤ job.createdAt).head?

/-- Of the candidates with one key, the first of the highest priority stays, at the place of the
first. -/
def dedupeInto (byKey : List ScheduledReconciliationCandidate)
    (candidate : ScheduledReconciliationCandidate) : List ScheduledReconciliationCandidate :=
  match byKey.find? fun c => decide (c.key = candidate.key) with
  | none => byKey ++ [candidate]
  | some existing =>
      if existing.priority < candidate.priority then
        updateWhere (fun c => decide (c.key = candidate.key)) (fun _ => candidate) byKey
      else byKey

def dedupeCandidates (candidates : List ScheduledReconciliationCandidate) :
    List ScheduledReconciliationCandidate :=
  (candidates.foldl dedupeInto []).insertionSort fun c c' => c'.priority ≤ c.priority

inductive SkipReason
  | activeJob | cooldown
  deriving DecidableEq

/-- Why no job is created for a candidate, given the latest related job. -/
def skipReason (latestJob : Option ReconciliationJob) (now : Instant) (cooldownMs : ℤ) :
    Option (SkipReason × Id) :=
  latestJob.bind fun job =>
    if isReconciliationJobActive job.status then some (.activeJob, job.id)
    else if job.status ∈ TERMINAL_RECONCILIATION_JOB_STATUSES ∧
        isWithinReconciliationCooldown (some (getLatestOperationalJobTimestamp job)) now cooldownMs
      then some (.cooldown, job.id)
    else none

structure CreateCycle where
  now : Instant
  cooldownMs : ℤ
  limit : ℕ

structure ScheduledReconciliationJobResult where
  createdJobs : List Id
  skippedCandidates : List (ScheduledReconciliationCandidate × SkipReason × Id)

inductive CreatePosition
  | findCandidates
  | next (candidates : List ScheduledReconciliationCandidate)
      (result : ScheduledReconciliationJobResult)
  | insert (candidate : ScheduledReconciliationCandidate)
      (candidates : List ScheduledReconciliationCandidate)
      (result : ScheduledReconciliationJobResult)
  | ended (result : Except String ScheduledReconciliationJobResult)

/-! ## Executing jobs -/

structure ExecuteCycle where
  now : Instant
  limit : ℕ

/-- The due jobs, in the order of the query. -/
def ScheduledJobStore.findDue (s : ScheduledJobStore) (input : ExecuteCycle) : List Id :=
  let due := s.jobs.filter fun job =>
    decide (job.status = .pending) && decide (job.scheduledAt ≤ input.now)
  ((due.insertionSort fun job job' => job'.priority < job.priority ∨
    (job'.priority = job.priority ∧ job.scheduledAt ≤ job'.scheduledAt)).take input.limit).map
      (·.id)

inductive ScheduledReconciliationStatus
  | completed | failed | skipped
  deriving DecidableEq

structure ScheduledReconciliationExecutionResult where
  operationalJobId : Id
  status : ScheduledReconciliationStatus
  skippedReason : Option String

/-- Where `markOperationalJobFailed` is called. -/
inductive FailureSite
  /-- Before the job is processed. -/
  | linkage
  /-- In the `try` clause, when the target was not found. -/
  | target
  /-- In the `catch` clause. -/
  | caught (error : String)
  deriving DecidableEq

def FailureSite.failure : FailureSite → JobFailure
  | .linkage => .missingLinkage
  | .target => .targetNotFound
  | .caught error => .ofError error

def FailureSite.skippedReason : FailureSite → String
  | .linkage => "Missing allocation/order linkage."
  | .target => "Target not found."
  | .caught error => error

abbrev ExecutionResults := List ScheduledReconciliationExecutionResult

inductive ExecutePosition
  | findDue
  | next (jobs : List Id) (results : ExecutionResults)
  | markProcessing (job : Id) (jobs : List Id) (results : ExecutionResults)
  | reconcile (job : Id) (jobs : List Id) (results : ExecutionResults)
  | markCompleted (job : Id) (jobs : List Id) (results : ExecutionResults)
  | readForFailed (site : FailureSite) (job : Id) (jobs : List Id) (results : ExecutionResults)
  | markFailed (counts : FailureCounts) (site : FailureSite) (job : Id) (jobs : List Id)
      (results : ExecutionResults)
  | ended (result : Except String ExecutionResults)

/-- What came of the reconciliation of a job. -/
inductive ReconcileOutcome
  | found
  | notFound
  | thrown (error : String)

inductive ScheduledJobAnswer
  /-- A statement ran and was answered. -/
  | statement (now : Instant)
  /-- A statement ran and its answer was lost. -/
  | lost (now : Instant)
  /-- A statement failed without effect. -/
  | failed
  | candidates (candidates : Except String (List ScheduledReconciliationCandidate))
  | inserted (id : Id) (createdAt : Instant)
  | insertLost (id : Id) (createdAt : Instant)
  | reconciled (outcome : ReconcileOutcome)
  /-- The process of the cycle crashes. -/
  | crash

def JOB_STATEMENT_FAILED : String := "The statement failed."

def CRASHED : String := "The process crashed."

def CreatePosition.run (input : CreateCycle) (answer : ScheduledJobAnswer) (s : ScheduledJobStore)
    (position : CreatePosition) : Option (ScheduledJobStore × CreatePosition) :=
  match position, answer with
  | .ended _, _ => none
  | _, .crash => some (s, .ended (.error CRASHED))
  | .findCandidates, .candidates (.ok candidates) =>
      some (s, .next ((dedupeCandidates candidates).take input.limit) ⟨[], []⟩)
  | .findCandidates, .candidates (.error error) => some (s, .ended (.error error))
  | .next [] result, .statement _ => some (s, .ended (.ok result))
  | .next (candidate :: candidates) result, .statement _ =>
      some (s, match skipReason (s.findLatestRelatedReconciliationJob candidate) input.now
          input.cooldownMs with
        | some (reason, latestJobId) => .next candidates
            { result with
              skippedCandidates := result.skippedCandidates ++ [(candidate, reason, latestJobId)] }
        | none => .insert candidate candidates result)
  | .insert candidate candidates result, .inserted id createdAt =>
      (s.insert (.ofCandidate candidate id input.now createdAt)).map fun s =>
        (s, .next candidates { result with createdJobs := result.createdJobs ++ [id] })
  | .insert candidate _ _, .insertLost id createdAt =>
      (s.insert (.ofCandidate candidate id input.now createdAt)).map fun s =>
        (s, .ended (.error JOB_STATEMENT_FAILED))
  | .next (_ :: _) _, .failed | .insert .., .failed =>
      some (s, .ended (.error JOB_STATEMENT_FAILED))
  | _, _ => none

/-- The result that is recorded for a job, and the next one. -/
def ExecutePosition.finished (job : Id) (status : ScheduledReconciliationStatus)
    (skippedReason : Option String) (jobs : List Id) (results : ExecutionResults) :
    ExecutePosition :=
  .next jobs (results ++ [⟨job, status, skippedReason⟩])

/-- `findUnique` of the next job, and the checks before it is processed. -/
def ExecutePosition.afterFindJob (id : Id) (jobs : List Id) (results : ExecutionResults) :
    Option ReconciliationJob → ExecutePosition
  | none => .finished id .skipped (some "Reconciliation job not found.") jobs results
  | some job =>
      if job.vendorAllocationId = none ∧ job.sourceShopifyOrderId = none then
        .readForFailed .linkage id jobs results
      else .markProcessing id jobs results

def ExecutePosition.afterReconcile (job : Id) (jobs : List Id) (results : ExecutionResults) :
    ReconcileOutcome → ExecutePosition
  | .found => .markCompleted job jobs results
  | .notFound => .readForFailed .target job jobs results
  | .thrown error => .readForFailed (.caught error) job jobs results

/-- What follows when `markOperationalJobFailed` throws: the `catch` clause, unless it was called
outside the `try`. -/
def FailureSite.thrown (site : FailureSite) (job : Id) (jobs : List Id)
    (results : ExecutionResults) : ExecutePosition :=
  match site with
  | .target => .readForFailed (.caught JOB_STATEMENT_FAILED) job jobs results
  | .linkage | .caught _ => .ended (.error JOB_STATEMENT_FAILED)

/-- What follows when `markOperationalJobFailed` returns. -/
def FailureSite.returned (site : FailureSite) (job : Id) (jobs : List Id)
    (results : ExecutionResults) : ExecutePosition :=
  .finished job .failed (some site.skippedReason) jobs results

def ExecutePosition.run (input : ExecuteCycle) (i : ℕ) (answer : ScheduledJobAnswer)
    (s : ScheduledJobStore) (position : ExecutePosition) :
    Option (ScheduledJobStore × ExecutePosition) :=
  match position, answer with
  | .ended _, _ => none
  | _, .crash => some (s, .ended (.error CRASHED))
  | .findDue, .statement _ => some (s, .next (s.findDue input) [])
  | .next [] results, .statement _ => some (s, .ended (.ok results))
  | .next (job :: jobs) results, .statement _ =>
      some (s, .afterFindJob job jobs results (s.findJob job))
  | .markProcessing job jobs results, .statement now =>
      some (s.markProcessing i job now, .reconcile job jobs results)
  -- The update stands before the `try`: when it throws, the cycle ends.
  | .markProcessing job _ _, .lost now =>
      some (s.markProcessing i job now, .ended (.error JOB_STATEMENT_FAILED))
  | .reconcile job jobs results, .reconciled outcome =>
      some (s, .afterReconcile job jobs results outcome)
  | .markCompleted job jobs results, .statement now =>
      some (s.updateJob job (·.markCompleted now), .finished job .completed none jobs results)
  | .markCompleted job jobs results, .lost now =>
      some (s.updateJob job (·.markCompleted now),
        .readForFailed (.caught JOB_STATEMENT_FAILED) job jobs results)
  | .markCompleted job jobs results, .failed =>
      some (s, .readForFailed (.caught JOB_STATEMENT_FAILED) job jobs results)
  | .readForFailed site job jobs results, .statement _ =>
      some (s, match s.findJob job with
        | some row => .markFailed row.failureCounts site job jobs results
        | none => site.returned job jobs results)
  | .markFailed counts site job jobs results, .statement now =>
      some (s.updateJob job (·.markFailed counts site.failure now),
        site.returned job jobs results)
  | .markFailed counts site job jobs results, .lost now =>
      some (s.updateJob job (·.markFailed counts site.failure now), site.thrown job jobs results)
  | .readForFailed site job jobs results, .failed
  | .markFailed _ site job jobs results, .failed => some (s, site.thrown job jobs results)
  | .findDue, .failed | .next (_ :: _) _, .failed | .markProcessing .., .failed =>
      some (s, .ended (.error JOB_STATEMENT_FAILED))
  | _, _ => none

/-! ## The system -/

inductive ScheduledJobCycle
  | create (input : CreateCycle)
  | execute (input : ExecuteCycle)

inductive ScheduledJobProcess
  | create (input : CreateCycle) (position : CreatePosition)
  | execute (input : ExecuteCycle) (position : ExecutePosition)

namespace ScheduledJobProcess

def start : ScheduledJobCycle → ScheduledJobProcess
  | .create input => .create input .findCandidates
  | .execute input => .execute input .findDue

def run (i : ℕ) (answer : ScheduledJobAnswer) (s : ScheduledJobStore) (p : ScheduledJobProcess) :
    Option (ScheduledJobStore × ScheduledJobProcess) :=
  match p with
  | .create input position => (position.run input answer s).map fun (s, q) => (s, .create input q)
  | .execute input position =>
      (position.run input i answer s).map fun (s, q) => (s, .execute input q)

end ScheduledJobProcess

def scheduledJobProgram :
    Program ScheduledJobStore ScheduledJobProcess ScheduledJobCycle ScheduledJobAnswer Empty where
  start := ScheduledJobProcess.start
  run := ScheduledJobProcess.run
  outside e _ := e.elim

/-- No job exists. -/
def ScheduledJobStore.New (s : ScheduledJobStore) : Prop := s.jobs = [] ∧ s.executions = []

abbrev ScheduledJobWorld := World ScheduledJobStore ScheduledJobProcess

end VendorDashboard.Reconciliation

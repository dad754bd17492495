import VendorDashboard.Framework.Interleaving
import VendorDashboard.Finance.Schema

/-!
# The executor of automatic cancellation refunds

`createCustomerCancellationAutoRefundExecutor` on one job: `discover`, `claim`, `finish` and the
heartbeat are single conditional updates, and `runCycle` is the process that calls them.  Any
number of cycles run at once, one for each running executor and each tick of its timer.

A statement runs, fails without effect, or commits while its answer is lost.  A heartbeat is sent
by a timer and not awaited, so it reaches the database at any time after the claim.

`claimants` and `starts` are not columns: they record which cycle made each claim, and the
generations whose attempts started `processItem`.
-/

namespace VendorDashboard.Orders

open Finance (Id Instant)
open Interleaving

inductive OperationalJobStatus
  | pending | processing | completed | failed | retryScheduled | retrying | deadLetterReady
  | permanentlyFailed
  deriving DecidableEq

inductive CustomerCancellationAutoRefundProcessResult
  | completed | awaitingReconciliation | retryable | terminalException | skipped
  deriving DecidableEq

def CustomerCancellationAutoRefundProcessResult.name :
    CustomerCancellationAutoRefundProcessResult → String
  | .completed => "COMPLETED"
  | .awaitingReconciliation => "AWAITING_RECONCILIATION"
  | .retryable => "RETRYABLE"
  | .terminalException => "TERMINAL_EXCEPTION"
  | .skipped => "SKIPPED"

structure OperationalJob where
  status : OperationalJobStatus
  customerCancellationRequestItemId : Option Id
  retryCount : ℕ
  maxRetries : ℕ
  scheduledAt : Instant
  nextRetryAt : Option Instant
  lastAttemptAt : Option Instant
  retryBackoffMs : Option ℕ
  startedAt : Option Instant
  completedAt : Option Instant
  failedAt : Option Instant
  errorSummary : Option String
  failureCategory : Option String
  escalationReason : Option String
  processingGeneration : ℕ
  processingLeaseExpiresAt : Option Instant
  deriving DecidableEq

/-- The job that `ensureCustomerCancellationRefundJobs` creates; it sets `maxRetries` to 8. -/
def OperationalJob.created (itemId : Id) (maxRetries : ℕ) (scheduledAt : Instant) :
    OperationalJob where
  status := .pending
  customerCancellationRequestItemId := some itemId
  retryCount := 0
  maxRetries
  scheduledAt
  nextRetryAt := none
  lastAttemptAt := none
  retryBackoffMs := none
  startedAt := none
  completedAt := none
  failedAt := none
  errorSummary := none
  failureCategory := none
  escalationReason := none
  processingGeneration := 0
  processingLeaseExpiresAt := none

/-- What a cycle knows of its claim. -/
structure JobOwnership where
  generation : ℕ
  attempt : ℕ
  maxRetries : ℕ
  deriving DecidableEq

namespace OperationalJob

variable (job : OperationalJob)

/-- The condition of `discover`. -/
def Due (now : Instant) : Prop :=
  job.customerCancellationRequestItemId.isSome ∧
    ((job.status = .pending ∧ job.scheduledAt ≤ now) ∨
      (job.status = .retryScheduled ∧ ∃ t ∈ job.nextRetryAt, t ≤ now) ∨
      (job.status = .processing ∧ ∃ t ∈ job.processingLeaseExpiresAt, t < now))

instance (now : Instant) : Decidable (job.Due now) :=
  inferInstanceAs (Decidable (_ ∧ _))

/-- The answer of `discover`, when this is the only job. -/
def discover (batchSize : ℕ) (now : Instant) : List OperationalJob :=
  ([job].filter fun j => decide (j.Due now)).take batchSize

/-- The update of `claim`, for the job as it was discovered; `none` when no row matches. -/
def claim (seen : OperationalJob) (leaseMs : ℕ) (now : Instant) : Option OperationalJob :=
  if job.status = seen.status ∧ job.processingGeneration = seen.processingGeneration then
    some
      { job with
        status := .processing
        processingGeneration := seen.processingGeneration + 1
        processingLeaseExpiresAt := some (now + leaseMs)
        startedAt := some now
        lastAttemptAt := some now
        retryCount := job.retryCount + 1
        errorSummary := none }
  else none

/-- The job is still the one that `ownership` claimed. -/
def OwnedBy (ownership : JobOwnership) : Prop :=
  job.status = .processing ∧ job.processingGeneration = ownership.generation

instance (ownership : JobOwnership) : Decidable (job.OwnedBy ownership) :=
  inferInstanceAs (Decidable (_ ∧ _))

def backoff (attempt : ℕ) : ℕ :=
  min (15 * 60000) (5000 * 2 ^ (attempt - 1))

def finish (ownership : JobOwnership) (outcome : CustomerCancellationAutoRefundProcessResult)
    (error : Option String) (now : Instant) : OperationalJob :=
  if job.OwnedBy ownership then
    if outcome = .completed ∨ outcome = .skipped then
      { job with
        status := .completed
        completedAt := some now
        processingLeaseExpiresAt := none }
    else if outcome = .terminalException ∨ ownership.maxRetries ≤ ownership.attempt then
      { job with
        status := .failed
        failedAt := some now
        processingLeaseExpiresAt := none
        failureCategory := some (if outcome = .terminalException then
          "CUSTOMER_CANCELLATION_EXCEPTION" else "RETRIES_EXHAUSTED")
        errorSummary := some (error.getD outcome.name)
        escalationReason := some "Customer cancellation remains held for Admin Review." }
    else
      { job with
        status := .retryScheduled
        nextRetryAt := some (now + backoff ownership.attempt)
        retryBackoffMs := some (backoff ownership.attempt)
        processingLeaseExpiresAt := none
        errorSummary := some (error.getD outcome.name) }
  else job

def heartbeat (ownership : JobOwnership) (leaseMs : ℕ) (now : Instant) : OperationalJob :=
  if job.OwnedBy ownership then { job with processingLeaseExpiresAt := some (now + leaseMs) }
  else job

end OperationalJob

/-! ## Cycles -/

structure AutoRefundStore where
  job : OperationalJob
  claimants : List ℕ
  starts : List ℕ

inductive CyclePosition
  | discover
  /-- The candidates that are still to come. -/
  | next (candidates : List OperationalJob)
  | claimed (candidates : List OperationalJob)
  /-- `processItem` is running. -/
  | processing (candidates : List OperationalJob)
  | finish (candidates : List OperationalJob)
      (outcome : CustomerCancellationAutoRefundProcessResult)
  /-- Something threw after the claim. -/
  | finishAfterThrow (candidates : List OperationalJob) (error : String)
  | ended
  deriving DecidableEq

structure Cycle where
  position : CyclePosition
  /-- The last claim, for which heartbeats may still be on their way. -/
  ownership : Option JobOwnership
  deriving DecidableEq

/-- What a step of a cycle finds outside. -/
inductive CycleAnswer
  | statement (now : Instant)
  /-- A statement fails and has no effect. -/
  | failed (error : String)
  /-- A statement commits and its answer is lost. -/
  | lost (now : Instant) (error : String)
  | proceed
  | returned (outcome : CustomerCancellationAutoRefundProcessResult)
  | threw (error : String)
  /-- The executor is closing. -/
  | closing
  | heartbeat (now : Instant)
  deriving DecidableEq

namespace AutoRefundStore

variable (s : AutoRefundStore)

def withJob (job : OperationalJob) : AutoRefundStore := { s with job }

/-- A claim by cycle `i`. -/
def claimBy (i : ℕ) (job : OperationalJob) : AutoRefundStore :=
  { s with job, claimants := s.claimants ++ [i] }

end AutoRefundStore

namespace Cycle

variable (c : Cycle)

def goTo (position : CyclePosition) : Cycle := { c with position }

/-- Claim a candidate. -/
def claim (leaseMs i : ℕ) (s : AutoRefundStore) (seen : OperationalJob)
    (rest : List OperationalJob) (now : Instant) : AutoRefundStore × Cycle :=
  if seen.customerCancellationRequestItemId.isNone then (s, c.goTo .ended)
  else
    match s.job.claim seen leaseMs now with
    | none => (s, c.goTo (.next rest))
    | some job =>
        (s.claimBy i job,
          ⟨.claimed rest, some ⟨seen.processingGeneration + 1, seen.retryCount + 1,
            seen.maxRetries⟩⟩)

/-- The call of `finish` for the last claim. -/
def finishJob (s : AutoRefundStore) (outcome : CustomerCancellationAutoRefundProcessResult)
    (error : Option String) (now : Instant) : AutoRefundStore :=
  match c.ownership with
  | none => s
  | some ownership => s.withJob (s.job.finish ownership outcome error now)

def run (leaseMs batchSize i : ℕ) (answer : CycleAnswer) (s : AutoRefundStore) (c : Cycle) :
    Option (AutoRefundStore × Cycle) :=
  match answer, c.position with
  | .heartbeat now, _ =>
      c.ownership.map fun ownership =>
        (s.withJob (s.job.heartbeat ownership leaseMs now), c)
  | .statement now, .discover => some (s, c.goTo (.next (s.job.discover batchSize now)))
  | .failed _, .discover | .lost _ _, .discover => some (s, c.goTo .ended)
  | .proceed, .next [] => some (s, c.goTo .ended)
  | .closing, .next _ => some (s, c.goTo .ended)
  | .statement now, .next (seen :: rest) => some (c.claim leaseMs i s seen rest now)
  | .failed _, .next (_ :: _) => some (s, c.goTo .ended)
  | .lost now _, .next (seen :: rest) =>
      some ((c.claim leaseMs i s seen rest now).1, c.goTo .ended)
  | .proceed, .claimed rest =>
      c.ownership.map fun ownership =>
        ({ s with starts := s.starts ++ [ownership.generation] }, c.goTo (.processing rest))
  | .returned outcome, .processing rest => some (s, c.goTo (.finish rest outcome))
  | .threw error, .processing rest => some (s, c.goTo (.finishAfterThrow rest error))
  | .statement now, .finish rest outcome =>
      some (c.finishJob s outcome none now, c.goTo (.next rest))
  | .failed error, .finish rest _ => some (s, c.goTo (.finishAfterThrow rest error))
  | .lost now error, .finish rest outcome =>
      some (c.finishJob s outcome none now, c.goTo (.finishAfterThrow rest error))
  | .statement now, .finishAfterThrow rest error =>
      some (c.finishJob s .retryable (some error) now, c.goTo (.next rest))
  | .failed _, .finishAfterThrow _ _ => some (s, c.goTo .ended)
  | .lost now _, .finishAfterThrow _ error =>
      some (c.finishJob s .retryable (some error) now, c.goTo .ended)
  | _, _ => none

end Cycle

/-- The cycles of any number of executors. -/
def autoRefundExecutor (leaseMs batchSize : ℕ) :
    Program AutoRefundStore Cycle Unit CycleAnswer Empty where
  start := fun _ => ⟨.discover, none⟩
  run := Cycle.run leaseMs batchSize
  outside := fun e _ => e.elim

/-- A store with a job that was just created. -/
def AutoRefundStore.New (s : AutoRefundStore) : Prop :=
  ∃ itemId maxRetries scheduledAt, 0 < maxRetries ∧
    s = ⟨OperationalJob.created itemId maxRetries scheduledAt, [], []⟩

end VendorDashboard.Orders

import VendorDashboard.Framework.Interleaving
import VendorDashboard.Shopify.OrdersCreateOwnership

/-!
# The attempts at an orders/create webhook event

An attempt is one candidate of an executor cycle (`processCandidate`, `executeClaimedAttempt`) or one
`recoverWebhookEvent` of an operator; both claim the event, run `ingestShopifyOrderWebhook` and record
a failure.  Every statement is a step, and heartbeats reach the database at any time after the claim.

The ingestion is one transaction: `lockAndVerifyOrdersCreateOwnership` locks the row, the effects of
the order and `finalizeFencedOrdersCreateSuccess` follow, and the commit releases the row.  Until
then an update by anyone else that would match the row waits.

`claims`, `committed` and `record` are not columns: they record which attempt made each claim, the
generations whose effects were committed, and why the event has no availability.
-/

namespace VendorDashboard.Shopify

open Finance (Id Instant)
open Interleaving

inductive FailureRecord
  | terminal | exhausted
  deriving DecidableEq

structure ExecutionStore where
  event : WebhookEvent
  clock : Instant
  /-- The attempt whose transaction has locked the row. -/
  lock : Option ℕ
  claims : List (ℕ × ℕ)
  committed : List ℕ
  record : Option FailureRecord

inductive AttemptKind
  | executor
  | adminRecovery (sourceShopifyOrderId : String)
  deriving DecidableEq

inductive AttemptOutcome
  | notClaimed | processed | retryScheduled | deadLetter | terminalFailure | lostFence
  | shutdownAborted | threw
  deriving DecidableEq

/-- What `ingestShopifyOrderWebhook` returns. -/
inductive OrderIngestionResult
  | ok
  | failure (retryable : Bool) (error : String)
  deriving DecidableEq

inductive AttemptPosition
  | discover
  | claim (kind : CandidateKind)
  | readEvent
  | claimForAdminRecovery (expectedStatus : WebhookStatus)
  | prepare
  /-- Requests to Shopify, before the transaction. -/
  | processing
  | lockOwnership
  /-- The row is locked; the effects of the order are written. -/
  | finalizeSuccess
  | commit (shopifyOrderId : Id) (clock : Instant)
  | finalizeRetryable (error : String)
  | finalizeTerminal (error : String)
  | ended (outcome : AttemptOutcome)
  deriving DecidableEq

structure Attempt where
  kind : AttemptKind
  context : Option FencedExecutionContext
  /-- A heartbeat has failed. -/
  lostFence : Bool
  /-- The signal of the attempt is aborted. -/
  aborted : Bool
  position : AttemptPosition
  deriving DecidableEq

/-- What a step of an attempt finds outside. -/
inductive AttemptAnswer
  /-- A statement that began at `t`. -/
  | statement (t : Instant)
  /-- A statement fails and has no effect. -/
  | failed (retryable : Bool) (error : String)
  /-- A statement commits and its answer is lost. -/
  | lost (t : Instant) (retryable : Bool) (error : String)
  | prepared
  | unprepared (message : String)
  /-- The processing ends before the transaction. -/
  | result (retryable : Bool) (error : String)
  | threwLostFence
  | threwAbort
  /-- The transaction begins. -/
  | transaction
  | effects (shopifyOrderId : Id)
  | heartbeat (t : Instant)
  | heartbeatFailed
  | shutdown
  deriving DecidableEq

/-- When the statement of an answer began. -/
def AttemptAnswer.begunAt : AttemptAnswer → Option Instant
  | .statement t | .lost t _ _ | .heartbeat t => some t
  | _ => none

namespace Attempt

variable (a : Attempt)

def goTo (position : AttemptPosition) : Attempt := { a with position }

def finished (outcome : AttemptOutcome) : Attempt := a.goTo (.ended outcome)

def finalizeFailure (retryable : Bool) (error : String) : Attempt :=
  a.goTo (if retryable then .finalizeRetryable error else .finalizeTerminal error)

/-- The processing has returned. -/
def afterResult (result : OrderIngestionResult) : Attempt :=
  match a.kind with
  | .executor =>
      if a.lostFence then a.finished .lostFence
      else if a.aborted then a.finished .shutdownAborted
      else
        match result with
        | .ok => a.finished .processed
        | .failure retryable error => a.finalizeFailure retryable error
  | .adminRecovery _ =>
      match result with
      | .ok => a.finished (if a.lostFence then .threw else .processed)
      | .failure retryable error => a.finalizeFailure retryable error

/-- The processing fails before the transaction: the executor gets a result, and the recovery an
exception. -/
def afterFailure (retryable : Bool) (error : String) : Attempt :=
  match a.kind with
  | .executor => a.afterResult (.failure retryable error)
  | .adminRecovery _ =>
      if a.aborted then a.finished .threw else a.finalizeFailure retryable error

/-- An `OrdersCreateLostFenceError`; `classifyOrderIngestionException` does not retry it. -/
def afterLostFence : Attempt :=
  match a.kind with
  | .executor => a.finished .lostFence
  | .adminRecovery _ =>
      if a.aborted then a.finished .threw
      else a.finalizeFailure false "Shopify orders/create execution ownership was lost."

def afterAbort : Attempt :=
  match a.kind with
  | .executor =>
      if a.lostFence then a.finished .lostFence
      else if a.aborted then a.finished .shutdownAborted
      else a.finalizeFailure false "The orders/create executor attempt was aborted."
  | .adminRecovery _ =>
      if a.aborted then a.finished .threw
      else a.finalizeFailure false "The orders/create executor attempt was aborted."

/-- A claim by attempt `i`; `next` is where a claimed attempt goes on. -/
def claimed (i : ℕ) (s : ExecutionStore) (next : AttemptPosition) (update : Option WebhookEvent) :
    Option (ExecutionStore × Attempt) :=
  match update with
  | none => some (s, a.finished .notClaimed)
  | some event =>
      if s.lock.isSome then none
      else
        let orderId := event.sourceShopifyOrderId.getD ""
        some ({ s with
            event
            claims := s.claims ++ [(event.processingGeneration, i)]
            record := none },
          { a with
            context := some ⟨event.processingGeneration, orderId⟩
            position := if orderId = "" then .ended .threw else next })

/-- An update that ends the attempt. -/
def recorded (s : ExecutionStore) (unmatched outcome : AttemptOutcome)
    (record : Option FailureRecord) (update : Option WebhookEvent) :
    Option (ExecutionStore × Attempt) :=
  match update with
  | none => some (s, a.finished unmatched)
  | some event => if s.lock.isSome then none else some ({ s with event, record }, a.finished outcome)

/-- `processCandidate` up to the claim. -/
def processCandidate (leaseMs i : ℕ) (s : ExecutionStore) (kind : CandidateKind) (t : Instant) :
    Option (ExecutionStore × Attempt) :=
  if kind = .exhaustedProcessing then
    a.recorded s .notClaimed .deadLetter (some .exhausted) (s.event.fenceExpiredExhausted t)
  else a.claimed i s .prepare (s.event.claim kind leaseMs t)

def retryable (s : ExecutionStore) (context : FencedExecutionContext) (error : String)
    (t : Instant) : Option (ExecutionStore × Attempt) :=
  if s.event.executionAttemptCount < s.event.executionMaxAttempts then
    a.recorded s .lostFence .retryScheduled none (s.event.finalizeRetryable context error t)
  else a.recorded s .lostFence .deadLetter (some .exhausted)
    (s.event.finalizeRetryable context error t)

def terminal (s : ExecutionStore) (context : FencedExecutionContext) (error : String)
    (t : Instant) : Option (ExecutionStore × Attempt) :=
  a.recorded s .lostFence .terminalFailure (some .terminal)
    (s.event.finalizeTerminal context error t)

def heartbeat (leaseMs : ℕ) (s : ExecutionStore) (context : FencedExecutionContext) (t : Instant) :
    Option (ExecutionStore × Attempt) :=
  match s.event.heartbeat context leaseMs t s.clock with
  | none => some (s, { a with lostFence := true, aborted := true })
  | some event => if s.lock.isSome then none else some ({ s with event }, a)

/-- `lockAndVerifyOrdersCreateOwnership`. -/
def lockOwnership (i : ℕ) (s : ExecutionStore) (context : FencedExecutionContext) :
    Option (ExecutionStore × Attempt) :=
  if s.event.Verified context s.clock then
    if s.lock.isSome then none else some ({ s with lock := some i }, a.goTo .finalizeSuccess)
  else some (s, a.afterLostFence)

/-- The transaction is rolled back. -/
def rollback (s : ExecutionStore) (next : Attempt) : ExecutionStore × Attempt :=
  ({ s with lock := none }, next)

def commit (s : ExecutionStore) (context : FencedExecutionContext) (shopifyOrderId : Id)
    (clock : Instant) : ExecutionStore :=
  { s with
    event := s.event.finalizeSuccess shopifyOrderId clock
    lock := none
    committed := s.committed ++ [context.processingGeneration] }

/-- A step of attempt `i`. -/
def perform (leaseMs batchSize i : ℕ) (answer : AttemptAnswer) (s : ExecutionStore) (a : Attempt) :
    Option (ExecutionStore × Attempt) :=
  match answer, a.position, a.context with
  | .heartbeat t, _, some context => a.heartbeat leaseMs s context t
  | .heartbeatFailed, _, some _ => some (s, { a with lostFence := true, aborted := true })
  | .shutdown, _, some _ => some (s, { a with aborted := true })
  | .statement t, .discover, _ =>
      match s.event.discover batchSize t with
      | [] => some (s, a.finished .notClaimed)
      | kind :: _ => some (s, a.goTo (.claim kind))
  | .statement t, .claim kind, _ => a.processCandidate leaseMs i s kind t
  | .lost t _ _, .claim kind, _ =>
      (a.processCandidate leaseMs i s kind t).map fun (s, a) => (s, a.finished .threw)
  | .statement _, .readEvent, _ => some (s, a.goTo (.claimForAdminRecovery s.event.status))
  | .statement t, .claimForAdminRecovery expectedStatus, _ =>
      match a.kind with
      | .executor => none
      | .adminRecovery orderId =>
          a.claimed i s .processing (s.event.claimForAdminRecovery expectedStatus orderId leaseMs t)
  | .lost t _ _, .claimForAdminRecovery expectedStatus, _ =>
      match a.kind with
      | .executor => none
      | .adminRecovery orderId =>
          (a.claimed i s .processing (s.event.claimForAdminRecovery expectedStatus orderId leaseMs
            t)).map fun (s, a) => (s, a.finished .threw)
  | .prepared, .prepare, _ => some (s, a.goTo .processing)
  | .unprepared message, .prepare, _ => some (s, a.finalizeFailure false message)
  | .result retryable error, .processing, _ => some (s, a.afterResult (.failure retryable error))
  | .failed retryable error, .processing, _ => some (s, a.afterFailure retryable error)
  | .threwLostFence, .processing, _ => some (s, a.afterLostFence)
  | .threwAbort, .processing, _ => some (s, a.afterAbort)
  | .transaction, .processing, _ => some (s, a.goTo .lockOwnership)
  | .statement _, .lockOwnership, some context => a.lockOwnership i s context
  | .failed retryable error, .lockOwnership, _ =>
      some (s, a.afterResult (.failure retryable error))
  | .effects shopifyOrderId, .finalizeSuccess, some context =>
      if s.event.Verified context s.clock then some (s, a.goTo (.commit shopifyOrderId s.clock))
      else some (rollback s a.afterLostFence)
  | .failed retryable error, .finalizeSuccess, _ =>
      some (rollback s (a.afterResult (.failure retryable error)))
  | .statement _, .commit shopifyOrderId clock, some context =>
      some (commit s context shopifyOrderId clock, a.afterResult .ok)
  | .failed retryable error, .commit _ _, _ =>
      some (rollback s (a.afterResult (.failure retryable error)))
  | .lost _ retryable error, .commit shopifyOrderId clock, some context =>
      some (commit s context shopifyOrderId clock, a.afterResult (.failure retryable error))
  | .statement t, .finalizeRetryable error, some context => a.retryable s context error t
  | .lost t _ _, .finalizeRetryable error, some context =>
      (a.retryable s context error t).map fun (s, a) => (s, a.finished .threw)
  | .statement t, .finalizeTerminal error, some context => a.terminal s context error t
  | .lost t _ _, .finalizeTerminal error, some context =>
      (a.terminal s context error t).map fun (s, a) => (s, a.finished .threw)
  | .failed _ _, .discover, _ | .failed _ _, .claim _, _ | .failed _ _, .readEvent, _
  | .failed _ _, .claimForAdminRecovery _, _ | .failed _ _, .finalizeRetryable _, _
  | .failed _ _, .finalizeTerminal _, _ => some (s, a.finished .threw)
  | _, _, _ => none

/-- A statement does not begin in the future. -/
def run (leaseMs batchSize i : ℕ) (answer : AttemptAnswer) (s : ExecutionStore) (a : Attempt) :
    Option (ExecutionStore × Attempt) :=
  if ∀ t ∈ answer.begunAt, t ≤ s.clock then a.perform leaseMs batchSize i answer s else none

def start : AttemptKind → Attempt
  | .executor => ⟨.executor, none, false, false, .discover⟩
  | .adminRecovery orderId => ⟨.adminRecovery orderId, none, false, false, .readEvent⟩

end Attempt

/-- The time passes. -/
structure Tick where
  clock : Instant

/-- Any number of executors and recoveries of one event. -/
def ordersCreateExecution (leaseMs batchSize : ℕ) :
    Program ExecutionStore Attempt AttemptKind AttemptAnswer Tick where
  start := Attempt.start
  run := fun i answer s a => a.run leaseMs batchSize i answer s
  outside := fun tick s => if s.clock ≤ tick.clock then some { s with clock := tick.clock } else none

/-- A store with an event that was just enrolled. -/
def ExecutionStore.New (s : ExecutionStore) : Prop :=
  ∃ sourceShopifyOrderId executionMaxAttempts now, 0 < executionMaxAttempts ∧
    s = ⟨WebhookEvent.enrolled sourceShopifyOrderId executionMaxAttempts now, now, none, [], [],
      none⟩

end VendorDashboard.Shopify

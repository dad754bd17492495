import VendorDashboard.Finance.Schema

/-!
# Ownership of an orders/create webhook event

The conditional updates of `orders-create-ownership.service`, on the row of one event with topic
`orders/create`.  `none` means that the `WHERE` does not match.

`CURRENT_TIMESTAMP` is the time at which a statement began, which an update that waited for a lock
still uses; `clock_timestamp()` is the time itself.
-/

namespace VendorDashboard.Shopify

open Finance (Id Instant)

inductive WebhookStatus
  | received | processing | processed | failed
  deriving DecidableEq

structure WebhookEvent where
  status : WebhookStatus
  sourceShopifyOrderId : Option String
  executionAvailableAt : Option Instant
  executionAttemptCount : ℕ
  executionMaxAttempts : ℕ
  processingGeneration : ℕ
  processingLeaseExpiresAt : Option Instant
  processedAt : Option Instant
  errorMessage : Option String
  shopifyOrderId : Option Id
  deriving DecidableEq

/-- The event as the intake enrols it. -/
def WebhookEvent.enrolled (sourceShopifyOrderId : String) (executionMaxAttempts : ℕ)
    (now : Instant) : WebhookEvent where
  status := .received
  sourceShopifyOrderId := some sourceShopifyOrderId
  executionAvailableAt := some now
  executionAttemptCount := 0
  executionMaxAttempts
  processingGeneration := 0
  processingLeaseExpiresAt := none
  processedAt := none
  errorMessage := none
  shopifyOrderId := none

inductive CandidateKind
  | received | failed | expiredProcessing | exhaustedProcessing
  deriving DecidableEq

/-- What an attempt knows of its claim. -/
structure FencedExecutionContext where
  processingGeneration : ℕ
  sourceShopifyOrderId : String
  deriving DecidableEq

/-- `sanitizeFailureMessage`: a run of line breaks becomes a space, and 500 characters are kept. -/
def sanitizeFailureMessage (message : String) : String :=
  let isBreak (c : Char) : Bool := c == '\r' || c == '\n'
  let rec go (inBreak : Bool) : List Char → List Char
    | [] => []
    | c :: cs =>
        if isBreak c then (if inBreak then go true cs else ' ' :: go true cs)
        else c :: go false cs
  String.ofList ((go false message.toList).take 500)

namespace WebhookEvent

variable (e : WebhookEvent)

/-- A column is set to a time that has come. -/
def Due (at_ : Option Instant) (t : Instant) : Prop := ∃ d ∈ at_, d ≤ t

instance (at_ : Option Instant) (t : Instant) : Decidable (Due at_ t) :=
  inferInstanceAs (Decidable (∃ d ∈ at_, d ≤ t))

/-- A class of `discoverOrdersCreateExecutionCandidates`. -/
def IsCandidate (t : Instant) : CandidateKind → Prop
  | .received => e.status = .received ∧ e.sourceShopifyOrderId.isSome ∧
      Due e.executionAvailableAt t ∧ e.executionAttemptCount < e.executionMaxAttempts
  | .failed => e.status = .failed ∧ e.sourceShopifyOrderId.isSome ∧
      Due e.executionAvailableAt t ∧ e.executionAttemptCount < e.executionMaxAttempts
  | .expiredProcessing => e.status = .processing ∧ e.sourceShopifyOrderId.isSome ∧
      Due e.processingLeaseExpiresAt t ∧ e.executionAttemptCount < e.executionMaxAttempts
  | .exhaustedProcessing => e.status = .processing ∧ e.sourceShopifyOrderId.isSome ∧
      Due e.processingLeaseExpiresAt t ∧ e.executionMaxAttempts ≤ e.executionAttemptCount

instance (t : Instant) (kind : CandidateKind) : Decidable (e.IsCandidate t kind) :=
  match kind with
  | .received => inferInstanceAs (Decidable (_ ∧ _ ∧ _ ∧ _))
  | .failed => inferInstanceAs (Decidable (_ ∧ _ ∧ _ ∧ _))
  | .expiredProcessing => inferInstanceAs (Decidable (_ ∧ _ ∧ _ ∧ _))
  | .exhaustedProcessing => inferInstanceAs (Decidable (_ ∧ _ ∧ _ ∧ _))

/-- `discoverOrdersCreateExecutionCandidates`, when this is the only event: its candidate
classes. -/
def discover (batchSize : ℕ) (t : Instant) : List CandidateKind :=
  ([.received, .failed, .expiredProcessing, .exhaustedProcessing].filter
    fun kind => decide (e.IsCandidate t kind)).take batchSize

/-- The columns that every claim sets. -/
def claimed (leaseMs : ℕ) (t : Instant) : WebhookEvent :=
  { e with
    status := .processing
    processingGeneration := e.processingGeneration + 1
    executionAttemptCount := e.executionAttemptCount + 1
    executionAvailableAt := none
    processingLeaseExpiresAt := some (t + leaseMs)
    errorMessage := none }

/-- `claimFencedOrdersCreateEvent`; an exhausted candidate is not claimed. -/
def claim (kind : CandidateKind) (leaseMs : ℕ) (t : Instant) : Option WebhookEvent :=
  if kind ≠ .exhaustedProcessing ∧ e.IsCandidate t kind then some (e.claimed leaseMs t) else none

/-- `claimOrdersCreateEventForAdminRecovery`. -/
def claimForAdminRecovery (expectedStatus : WebhookStatus) (sourceShopifyOrderId : String)
    (leaseMs : ℕ) (t : Instant) : Option WebhookEvent :=
  if e.status = expectedStatus ∧ (expectedStatus = .received ∨ expectedStatus = .failed) ∧
      (e.sourceShopifyOrderId = none ∨ e.sourceShopifyOrderId = some sourceShopifyOrderId) ∧
      e.executionAttemptCount < e.executionMaxAttempts then
    some { e.claimed leaseMs t with
      sourceShopifyOrderId := some (e.sourceShopifyOrderId.getD sourceShopifyOrderId) }
  else none

/-- `fenceExpiredExhaustedOrdersCreateEvent`. -/
def fenceExpiredExhausted (t : Instant) : Option WebhookEvent :=
  if e.IsCandidate t .exhaustedProcessing then
    some
      { e with
        status := .failed
        processingGeneration := e.processingGeneration + 1
        executionAvailableAt := none
        processingLeaseExpiresAt := none
        errorMessage := some "Shopify orders/create automatic execution attempts exhausted." }
  else none

/-- The event is still the one that the context claimed. -/
def OwnedBy (context : FencedExecutionContext) : Prop :=
  e.status = .processing ∧ e.processingGeneration = context.processingGeneration ∧
    e.sourceShopifyOrderId = some context.sourceShopifyOrderId

instance (context : FencedExecutionContext) : Decidable (e.OwnedBy context) :=
  inferInstanceAs (Decidable (_ ∧ _ ∧ _))

/-- The lease runs beyond a time. -/
def LeasedBeyond (t : Instant) : Prop := ∃ d ∈ e.processingLeaseExpiresAt, t < d

instance (t : Instant) : Decidable (e.LeasedBeyond t) :=
  inferInstanceAs (Decidable (∃ d ∈ e.processingLeaseExpiresAt, t < d))

/-- `heartbeatOrdersCreateOwnership`, begun at `t` and executed at `clock`. -/
def heartbeat (context : FencedExecutionContext) (leaseMs : ℕ) (t clock : Instant) :
    Option WebhookEvent :=
  if e.OwnedBy context ∧ e.LeasedBeyond clock then
    some { e with processingLeaseExpiresAt := some (t + leaseMs) }
  else none

/-- `finalizeRetryableOrdersCreateFailureInternal`. -/
def finalizeRetryable (context : FencedExecutionContext) (error : String) (t : Instant) :
    Option WebhookEvent :=
  if e.OwnedBy context ∧ e.LeasedBeyond t then
    some
      { e with
        status := .failed
        processingLeaseExpiresAt := none
        executionAvailableAt :=
          if e.executionAttemptCount < e.executionMaxAttempts then
            some (t + 60000 * 2 ^ (e.executionAttemptCount - 1))
          else none
        errorMessage := some (sanitizeFailureMessage error) }
  else none

/-- `finalizeTerminalOrdersCreateFailure`. -/
def finalizeTerminal (context : FencedExecutionContext) (error : String) (t : Instant) :
    Option WebhookEvent :=
  if e.OwnedBy context ∧ e.LeasedBeyond t then
    some
      { e with
        status := .failed
        processingLeaseExpiresAt := none
        executionAvailableAt := none
        errorMessage := some (sanitizeFailureMessage error) }
  else none

/-- The condition of `lockAndVerifyOrdersCreateOwnership` and of
`finalizeFencedOrdersCreateSuccess`. -/
def Verified (context : FencedExecutionContext) (clock : Instant) : Prop :=
  e.OwnedBy context ∧ e.LeasedBeyond clock

instance (context : FencedExecutionContext) (clock : Instant) :
    Decidable (e.Verified context clock) := inferInstanceAs (Decidable (_ ∧ _))

/-- The update of `finalizeFencedOrdersCreateSuccess`. -/
def finalizeSuccess (shopifyOrderId : Id) (clock : Instant) : WebhookEvent :=
  { e with
    status := .processed
    processedAt := some clock
    errorMessage := none
    shopifyOrderId := some shopifyOrderId
    processingLeaseExpiresAt := none
    executionAvailableAt := none }

end WebhookEvent

end VendorDashboard.Shopify

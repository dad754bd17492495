import VendorDashboard.Framework.Interleaving
import VendorDashboard.Framework.Table
import VendorDashboard.Framework.Text
import VendorDashboard.Finance.Schema
import Mathlib.Data.Finset.Card
import Mathlib.Data.List.Sort

/-!
# The outbox of Product Panel variant-disable events

`enqueueProductPanelVariantDisableEventsForRejectedAllocation` creates events or replays them,
`sendProductPanelVariantDisableDryRunEvents` sends a batch, for the events of one allocation
(`triggerProductPanelVariantDisableAutoSend`) or of one order
(`sendProductPanelVariantDisableDryRunEventsForOrder`).  Every database call and every request is a
step; each can fail, and a database call can also commit while its answer is lost.

A run keeps the events as it read them and writes their columns from these copies.

Two fields of an event are not columns: `recorded` holds the runs with a posted request whose
outcome was recorded, and `resolver` the run that resolved the event last.
-/

namespace VendorDashboard.ProductPanel

open Finance (Id Instant)
open Interleaving Table Text

inductive OutboxStatus
  | created | resolved | resolvedDryRun | failed
  deriving DecidableEq

/-- A row of `ProductPanelVariantDisableOutboxEvent`. -/
structure OutboxEvent where
  id : Id
  idempotencyKey : String
  shopifyVariantId : Option String
  shopifyOrderId : String
  reasonCode : String
  requestedAt : Instant
  dryRun : Bool
  attemptCount : ℕ
  status : OutboxStatus
  error : Option String
  resolvedAt : Option Instant
  failedAt : Option Instant
  recorded : Finset ℕ
  resolver : Option ℕ
  deriving DecidableEq

inductive OperationalSignalStatus
  | active | acknowledged | resolved | ignored
  deriving DecidableEq

structure ProductPanelEnv where
  enabled : Bool
  dryRun : Bool
  baseUrl : Option String
  hmacSecret : Option String
  /-- Whether `new URL` accepts the base URL. -/
  urlParses : Bool

/-- The answer of the Product Panel; of the body, which fields are `true`. -/
structure DisableResponse where
  ok : Bool
  status : ℕ
  accepted : Bool
  dryRun : Bool
  canResolve : Bool
  writesPerformed : Bool
  created : Bool
  duplicate : Bool

def isProductPanelDisableResolved (r : DisableResponse) (dryRun : Bool) : Bool :=
  if dryRun then r.accepted && r.dryRun && !r.writesPerformed
  else (r.accepted && r.canResolve && r.writesPerformed) || r.created || r.duplicate

def getResolvedProductPanelStatus (dryRun : Bool) : OutboxStatus :=
  if dryRun then .resolvedDryRun else .resolved

/-- `!value?.trim()` is false. -/
def isPresent (value : Option String) : Bool := value.any fun v => decide (trim v ≠ "")

def ProductPanelEnv.configured (env : ProductPanelEnv) : Bool :=
  isPresent env.baseUrl && isPresent env.hmacSecret

def OutboxEvent.Resolved (e : OutboxEvent) : Prop :=
  e.status = .resolved ∨ e.status = .resolvedDryRun

instance (e : OutboxEvent) : Decidable e.Resolved := inferInstanceAs (Decidable (_ ∨ _))

/-- `buildDisablePayload` needs a variant. -/
def OutboxEvent.hasVariant (e : OutboxEvent) : Bool :=
  e.shopifyVariantId.any fun v => decide (v ≠ "")

def OUT_OF_STOCK : String := "OUT_OF_STOCK"

def retryableStatuses : List OutboxStatus := [.created, .failed]

/-! ## The store -/

structure OutboxStore where
  events : List OutboxEvent
  /-- The failure signal of each event. -/
  signal : Id → Option OperationalSignalStatus

namespace OutboxStore

variable (s : OutboxStore)

/-- `ORDER BY requestedAt LIMIT limit`. -/
def page (limit : ℕ) (rows : List OutboxEvent) : List OutboxEvent :=
  (rows.insertionSort fun a b => a.requestedAt ≤ b.requestedAt).take limit

def findByIds (eventIds : List Id) (statuses : List OutboxStatus) (limit : ℕ) :
    List OutboxEvent :=
  page limit (s.events.filter fun e => decide (e.status ∈ statuses) && decide (e.id ∈ eventIds))

def findCandidates (shopifyOrderId : String) (limit : ℕ) : List OutboxEvent :=
  page limit (s.events.filter fun e =>
    decide (e.shopifyOrderId = shopifyOrderId) && decide (e.reasonCode = OUT_OF_STOCK) &&
      decide (e.status ∈ retryableStatuses))

def findLatest (shopifyOrderId : String) (limit : ℕ) : List OutboxEvent :=
  ((s.events.filter fun e => decide (e.shopifyOrderId = shopifyOrderId) &&
    decide (e.reasonCode = OUT_OF_STOCK)).insertionSort
      fun a b => b.requestedAt ≤ a.requestedAt).take limit

def updateEvent (id : Id) (f : OutboxEvent → OutboxEvent) : OutboxStore :=
  { s with events := updateWhere (fun e => decide (e.id = id)) f s.events }

def setSignal (id : Id) (status : OperationalSignalStatus) : OutboxStore :=
  { s with signal := Function.update s.signal id (some status) }

/-- `resolveProductPanelFailureSignal`. -/
def resolveSignal (id : Id) : OutboxStore :=
  if s.signal id = some .active ∨ s.signal id = some .acknowledged then s.setSignal id .resolved
  else s

end OutboxStore

/-- The outcome of a request of run `i` for the event as the run read it. -/
def OutboxEvent.resolve (r : OutboxEvent) (i : ℕ) (seen : OutboxEvent) (dryRun : Bool)
    (now : Instant) : OutboxEvent :=
  { r with
    status := getResolvedProductPanelStatus dryRun
    dryRun
    attemptCount := seen.attemptCount + 1
    error := none
    resolvedAt := some now
    failedAt := none
    recorded := insert i r.recorded
    resolver := some i }

/-- The update of `markProductPanelEventFailed`. -/
def OutboxEvent.fail (r : OutboxEvent) (i : ℕ) (seen : OutboxEvent) (posted dryRun : Bool)
    (error : String) (now : Instant) : OutboxEvent :=
  { r with
    status := .failed
    dryRun
    attemptCount := seen.attemptCount + 1
    error := some error
    failedAt := some now
    recorded := if posted then insert i r.recorded else r.recorded }

/-! ## Runs -/

structure SendResult where
  processed : ℕ
  resolved : ℕ
  failed : ℕ
  skipped : ℕ
  disabled : Bool

structure OrderSendResult where
  attempted : ℕ
  resolved : ℕ
  failed : ℕ
  skipped : ℕ
  latestEvents : List OutboxEvent

inductive SendOutcome
  | sent (result : SendResult)
  | sentForOrder (result : OrderSendResult)
  /-- `ProductPanelVariantDisableDryRunSendError`. -/
  | refused (message : String) (statusCode : ℕ)
  | threw

inductive SendCall
  | automatic (eventIds : List Id)
  | manual (shopifyOrderId : String) (limit : Option ℕ)

/-- Where `markProductPanelEventFailed` is called from. -/
inductive FailureSource
  /-- Before the request, outside of the `try`. -/
  | unsent
  /-- The answer does not resolve the event; inside of the `try`. -/
  | answered
  /-- The `catch`. -/
  | caught (posted : Bool)
  deriving DecidableEq

def FailureSource.posted : FailureSource → Bool
  | .unsent => false
  | .answered => true
  | .caught posted => posted

inductive SendPosition
  | readCandidates
  | readEvents (eventIds : List Id) (statuses : List OutboxStatus) (limit : ℕ)
  | post (event : OutboxEvent)
  | writeResolved (event : OutboxEvent)
  | resolveSignal (event : OutboxEvent)
  | markFailed (event : OutboxEvent) (error : String) (source : FailureSource)
  | raiseSignal (event : OutboxEvent) (source : FailureSource)
  | readLatest (result : SendResult)
  | ended (outcome : SendOutcome)

structure SendRun where
  call : SendCall
  skippedBeforeSend : ℕ
  /-- The events of the batch that are still to come. -/
  rest : List OutboxEvent
  processed : ℕ
  resolved : ℕ
  failed : ℕ
  position : SendPosition

/-- What a step of a run finds outside. -/
inductive SendAnswer
  | statement (now : Instant)
  /-- A database call or a request fails. -/
  | failed (error : String)
  /-- A database call commits and its answer is lost. -/
  | lost (now : Instant) (error : String)
  | response (response : DisableResponse)

namespace SendRun

variable (c : SendRun)

def goTo (position : SendPosition) : SendRun := { c with position }

/-- `sendProductPanelVariantDisableDryRunEvents` returns. -/
def returned (result : SendResult) : SendRun :=
  match c.call with
  | .automatic _ => c.goTo (.ended (.sent result))
  | .manual _ _ => c.goTo (.readLatest result)

/-- The next event of the batch. -/
def proceed (env : ProductPanelEnv) : SendRun :=
  match c.rest with
  | [] => c.returned ⟨c.processed, c.resolved, c.failed, 0, false⟩
  | event :: rest =>
      let c := { c with rest }
      if event.hasVariant then
        if env.configured then c.goTo (.post event)
        else c.goTo (.markFailed event "Product Panel base URL or HMAC secret is not configured."
          .unsent)
      else c.goTo (.markFailed event (if env.dryRun then
        "Missing Shopify variant id for Product Panel availability dry-run." else
        "Missing Shopify variant id for Product Panel availability disable request.") .unsent)

def start (env : ProductPanelEnv) (call : SendCall) : SendRun :=
  let c := (⟨call, 0, [], 0, 0, 0, .ended .threw⟩ : SendRun)
  match call with
  | .automatic eventIds =>
      if !env.enabled then c.goTo (.ended (.sent ⟨0, 0, 0, 0, true⟩))
      else if eventIds = [] then c.goTo (.ended (.sent ⟨0, 0, 0, 0, false⟩))
      else c.goTo (.readEvents eventIds [.created] eventIds.length)
  | .manual shopifyOrderId _ =>
      if trim shopifyOrderId = "" then
        c.goTo (.ended (.refused "Shopify order id is required." 400))
      else if !env.enabled then
        c.goTo (.ended (.refused "Product Panel variant disable dry-run sender is disabled." 409))
      else if !env.configured then
        c.goTo (.ended (.refused "Product Panel base URL or HMAC secret is not configured." 409))
      else c.goTo .readCandidates

/-- The order and the page size of a manual call. -/
def orderQuery : String × ℕ :=
  match c.call with
  | .automatic _ => ("", 25)
  | .manual shopifyOrderId limit => (trim shopifyOrderId, limit.getD 25)

def afterCandidates (candidates : List OutboxEvent) : SendRun :=
  let sendableEventIds := (candidates.filter OutboxEvent.hasVariant).map OutboxEvent.id
  let c := { c with skippedBeforeSend := candidates.length - sendableEventIds.length }
  if sendableEventIds = [] then c.goTo (.readLatest ⟨0, 0, 0, 0, false⟩)
  else c.goTo (.readEvents sendableEventIds retryableStatuses sendableEventIds.length)

def afterRead (env : ProductPanelEnv) (events : List OutboxEvent) : SendRun :=
  { c with rest := events, processed := events.length }.proceed env

def afterResponse (env : ProductPanelEnv) (event : OutboxEvent) (r : DisableResponse) : SendRun :=
  if r.ok && isProductPanelDisableResolved r env.dryRun then c.goTo (.writeResolved event)
  else c.goTo (.markFailed event
    ("Product Panel variant disable " ++ (if env.dryRun then "dry-run " else "") ++
      "failed with status " ++ toString r.status ++ ".") .answered)

/-- A database call of `markProductPanelEventFailed` fails. -/
def markFailedThrew (event : OutboxEvent) (error : String) : FailureSource → SendRun
  | .answered => c.goTo (.markFailed event error (.caught true))
  | .unsent | .caught _ => c.goTo (.ended .threw)

def afterLatest (result : SendResult) (latestEvents : List OutboxEvent) : SendRun :=
  c.goTo (.ended (.sentForOrder ⟨result.processed, result.resolved, result.failed,
    c.skippedBeforeSend + result.skipped, latestEvents⟩))

def run (env : ProductPanelEnv) (i : ℕ) (answer : SendAnswer) (s : OutboxStore) (c : SendRun) :
    Option (OutboxStore × SendRun) :=
  let resolveEvent (event : OutboxEvent) (now : Instant) :=
    s.updateEvent event.id fun r => r.resolve i event env.dryRun now
  let failEvent (event : OutboxEvent) (error : String) (source : FailureSource) (now : Instant) :=
    s.updateEvent event.id fun r => r.fail i event source.posted env.dryRun error now
  match c.position, answer with
  | .readCandidates, .statement _ =>
      some (s, c.afterCandidates (s.findCandidates c.orderQuery.1 c.orderQuery.2))
  | .readEvents eventIds statuses limit, .statement _ =>
      some (s, c.afterRead env (s.findByIds eventIds statuses limit))
  | .post event, .response r =>
      if env.urlParses then some (s, c.afterResponse env event r) else none
  | .post event, .failed error =>
      some (s, c.goTo (.markFailed event error (.caught env.urlParses)))
  | .writeResolved event, .statement now =>
      some (resolveEvent event now, c.goTo (.resolveSignal event))
  | .writeResolved event, .failed error =>
      some (s, c.goTo (.markFailed event error (.caught true)))
  | .writeResolved event, .lost now error =>
      some (resolveEvent event now, c.goTo (.markFailed event error (.caught true)))
  | .resolveSignal event, .statement _ =>
      some (s.resolveSignal event.id, { c with resolved := c.resolved + 1 }.proceed env)
  | .resolveSignal event, .failed error =>
      some (s, c.goTo (.markFailed event error (.caught true)))
  | .resolveSignal event, .lost _ error =>
      some (s.resolveSignal event.id, c.goTo (.markFailed event error (.caught true)))
  | .markFailed event error source, .statement now =>
      some (failEvent event error source now, c.goTo (.raiseSignal event source))
  | .markFailed event _ source, .failed error => some (s, c.markFailedThrew event error source)
  | .markFailed event error source, .lost now error' =>
      some (failEvent event error source now, c.markFailedThrew event error' source)
  | .raiseSignal event _, .statement _ =>
      some (s.setSignal event.id .active, { c with failed := c.failed + 1 }.proceed env)
  | .raiseSignal event source, .failed error => some (s, c.markFailedThrew event error source)
  | .raiseSignal event source, .lost _ error =>
      some (s.setSignal event.id .active, c.markFailedThrew event error source)
  | .readLatest result, .statement _ =>
      some (s, c.afterLatest result (s.findLatest c.orderQuery.1 c.orderQuery.2))
  | .readCandidates, .failed _ | .readEvents _ _ _, .failed _ | .readLatest _, .failed _ =>
      some (s, c.goTo (.ended .threw))
  | _, _ => none

end SendRun

/-! ## The surroundings -/

inductive OutboxMove
  /-- The upsert of one line item. -/
  | enqueue (id : Id) (idempotencyKey : String) (shopifyVariantId : Option String)
      (shopifyOrderId : String) (requestedAt : Instant) (dryRun : Bool)
  /-- `updateOperationalSignalStatus`, which never activates a signal. -/
  | signalAction (eventId : Id) (status : OperationalSignalStatus)

/-- The row that the upsert creates. -/
def OutboxEvent.enqueued (id : Id) (idempotencyKey : String) (shopifyVariantId : Option String)
    (shopifyOrderId : String) (requestedAt : Instant) (dryRun : Bool) : OutboxEvent :=
  let hasVariant := shopifyVariantId.any fun v => decide (v ≠ "")
  { id, idempotencyKey, shopifyVariantId, shopifyOrderId, requestedAt, dryRun
    reasonCode := OUT_OF_STOCK
    attemptCount := 0
    status := if hasVariant then .created else .failed
    error := if hasVariant then none else
      some "Missing Shopify variant id for Product Panel availability dry-run."
    resolvedAt := none
    failedAt := none
    recorded := ∅
    resolver := none }

def OutboxStore.enqueue (s : OutboxStore) (id : Id) (idempotencyKey : String)
    (shopifyVariantId : Option String) (shopifyOrderId : String) (requestedAt : Instant)
    (dryRun : Bool) : Option OutboxStore :=
  if s.events.any fun e => decide (e.idempotencyKey = idempotencyKey) then
    some { s with
      events := updateWhere (fun e => decide (e.idempotencyKey = idempotencyKey))
        (fun e => { e with shopifyVariantId, shopifyOrderId, dryRun }) s.events }
  else if s.events.any fun e => decide (e.id = id) then none
  else
    some { s with
      events := s.events ++
        [.enqueued id idempotencyKey shopifyVariantId shopifyOrderId requestedAt dryRun] }

def OutboxStore.outside : OutboxMove → OutboxStore → Option OutboxStore
  | .enqueue id key variant order requestedAt dryRun, s =>
      s.enqueue id key variant order requestedAt dryRun
  | .signalAction eventId status, s =>
      if status ≠ .active ∧ (s.signal eventId).isSome then some (s.setSignal eventId status)
      else none

/-- Any number of automatic and manual runs in one environment. -/
def productPanelOutbox (env : ProductPanelEnv) :
    Program OutboxStore SendRun SendCall SendAnswer OutboxMove where
  start := SendRun.start env
  run := SendRun.run env
  outside := OutboxStore.outside

def OutboxStore.empty : OutboxStore := ⟨[], fun _ => none⟩

/-! ## The condition -/

/-- No other run has recorded an outcome for the event since run `i` read it. -/
def OutboxStore.Unrecorded (s : OutboxStore) (i : ℕ) (seen : OutboxEvent) : Prop :=
  ∀ r ∈ s.events, r.id = seen.id → r.recorded.erase i = seen.recorded

instance (s : OutboxStore) (i : ℕ) (seen : OutboxEvent) : Decidable (s.Unrecorded i seen) :=
  inferInstanceAs (Decidable (∀ r ∈ s.events, _ → _))

/-- The run has resolved the event and will resolve its signal next. -/
def SendPosition.resolvesSignal (id : Id) : SendPosition → Bool
  | .resolveSignal event => decide (event.id = id)
  | _ => false

/-- No run that is past its update of the signal has resolved the event. -/
def signalMayBeRaised (w : World OutboxStore SendRun) (id : Id) : Prop :=
  ∀ r ∈ w.shared.events, r.id = id → r.Resolved → ∀ j ∈ r.resolver, ∀ d ∈ w.process j,
    d.position.resolvesSignal id = true

instance (w : World OutboxStore SendRun) (id : Id) : Decidable (signalMayBeRaised w id) :=
  inferInstanceAs (Decidable (∀ r ∈ w.shared.events, _ → _ → ∀ j ∈ r.resolver,
    ∀ d ∈ w.process j, _))

/-- The steps at which a run keeps clear of the other runs and of a misconfigured environment,
and at which a resolved event is followed up. -/
def SendRun.admits (env : ProductPanelEnv) (w : World OutboxStore SendRun) (i : ℕ) (c : SendRun)
    (answer : SendAnswer) : Bool :=
  match c.position, answer with
  | .readEvents eventIds statuses limit, .statement _ =>
      (w.shared.findByIds eventIds statuses limit).all fun e =>
        e.hasVariant && env.configured && env.urlParses
  | .writeResolved event, .statement _ => decide (w.shared.Unrecorded i event)
  | .writeResolved _, .lost _ _ => false
  | .resolveSignal _, .failed _ | .resolveSignal _, .lost _ _ => false
  | .markFailed event _ _, .statement _ | .markFailed event _ _, .lost _ _ =>
      decide (w.shared.Unrecorded i event)
  | .raiseSignal event _, .statement _ | .raiseSignal event _, .lost _ _ =>
      decide (signalMayBeRaised w event.id)
  | _, _ => true

def SendAdmits (env : ProductPanelEnv) (w : World OutboxStore SendRun) :
    Move SendCall SendAnswer OutboxMove → Prop
  | .run i answer => ∀ c ∈ w.process i, c.admits env w i answer = true
  | _ => True

instance (env : ProductPanelEnv) (w : World OutboxStore SendRun)
    (m : Move SendCall SendAnswer OutboxMove) : Decidable (SendAdmits env w m) :=
  match m with
  | .run i answer => inferInstanceAs (Decidable (∀ c ∈ w.process i, c.admits env w i answer = true))
  | .start _ _ => isTrue trivial
  | .outside _ => isTrue trivial

end VendorDashboard.ProductPanel

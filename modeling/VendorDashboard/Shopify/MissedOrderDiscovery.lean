import VendorDashboard.Framework.Run
import VendorDashboard.Framework.Table
import VendorDashboard.Framework.Text
import VendorDashboard.Shopify.OrdersCreateOwnership
import Mathlib.Data.List.Sort

/-!
# The discovery of missed orders

`runMissedOrderDiscovery`: it pages through Shopify's recent orders up to a cap, and for every order
without a local one it leaves an operational signal, unless the executor will take its webhook.
Before and after a signal is written it looks for the order again, which may be ingested meanwhile.
A complete run resolves the signals of the orders that are local by then.

Each request and each statement is a step, and may fail.  Orders are ingested between any two steps.
The rows of the webhook events do not change.

`checked` and `interrupted` are not stored by the program: they record the last answer to whether an
order is local, and that an error ended the run early.
-/

namespace VendorDashboard.Shopify

open Finance (Id Instant)
open Table Text Transaction

def MISSED_ORDER_DISCOVERY_PAGE_SIZE : ℕ := 100

def MISSED_ORDER_SIGNAL_TYPE : String := "shopify_order_missing_local"

def MISSED_ORDER_SIGNAL_RULE_KEY : String := "diagnostics.shopify_order_missing_local"

def DISCOVERY_FAILURE_SIGNAL_ID : String :=
  "signal-diagnostics-shopify-order-discovery-run-failed"

def DISCOVERY_TRUNCATION_SIGNAL_ID : String :=
  "signal-diagnostics-shopify-order-discovery-truncated"

/-! ## Orders -/

/-- The id of an order in the resource API, a decimal number. -/
structure LegacyResourceId where
  text : String
  decimal : isPositiveDecimal text = true
  deriving DecidableEq

/-- A date as it was received, and the time that it is read as. -/
structure ShopifyDate where
  text : String
  time : Option Instant
  deriving DecidableEq

structure RecentShopifyOrderIdentity where
  orderGid : String
  sourceShopifyOrderId : LegacyResourceId
  sourceShopifyOrderNumber : String
  shopifyCreatedAt : ShopifyDate
  deriving DecidableEq

/-- An order as the query answers it. -/
structure RecentOrderNode where
  id : Option String
  legacyResourceId : Option LegacyResourceId
  name : Option String
  createdAt : Option ShopifyDate
  deriving DecidableEq

def RecentOrderNode.toOrder (node : RecentOrderNode) : Option RecentShopifyOrderIdentity := do
  let id ← node.id.filter fun id => decide (id ≠ "")
  let legacyResourceId ← node.legacyResourceId
  let name ← node.name.filter fun name => decide (name ≠ "")
  let createdAt ← node.createdAt.filter fun date => decide (date.text ≠ "")
  some ⟨id, legacyResourceId, name, createdAt⟩

/-- A cursor is the number of orders before it. -/
structure FetchRecentShopifyOrdersPageResult where
  orders : List RecentShopifyOrderIdentity
  nodesCount : ℕ
  malformedNodes : ℕ
  hasNextPage : Bool
  endCursor : Option ℕ
  deriving DecidableEq

/-- What `fetchRecentOrdersPage` makes of an answer. -/
def pageOfNodes (nodes : List RecentOrderNode) (hasNextPage : Bool) (endCursor : Option ℕ) :
    FetchRecentShopifyOrdersPageResult :=
  let orders := nodes.filterMap RecentOrderNode.toOrder
  ⟨orders, nodes.length, nodes.length - orders.length, hasNextPage, endCursor⟩

/-! ## Webhook events -/

/-- A row of an orders/create event. -/
structure OrdersCreateIntakeRow where
  id : Id
  receivedAt : Instant
  event : WebhookEvent

inductive OrdersCreateLeaseState
  | active | expired | legacyNoLease
  deriving DecidableEq

structure AuthoritativeOrdersCreateIntake where
  id : Id
  status : WebhookStatus
  executionAvailableAt : Option Instant
  executionAttemptCount : ℕ
  executionMaxAttempts : ℕ
  processingGeneration : ℕ
  processingLeaseExpiresAt : Option Instant
  leaseState : OrdersCreateLeaseState
  deriving DecidableEq

def getOrdersCreateLeaseState (processingLeaseExpiresAt : Option Instant) (now : Instant) :
    OrdersCreateLeaseState :=
  match processingLeaseExpiresAt with
  | none => .legacyNoLease
  | some t => if now < t then .active else .expired

def isActionableOrdersCreateIntake (e : WebhookEvent) : Bool :=
  e.sourceShopifyOrderId.any (fun id => decide (id ≠ "")) &&
    decide (e.executionAttemptCount < e.executionMaxAttempts) &&
      match e.status with
      | .received | .failed => e.executionAvailableAt.isSome
      | .processing => e.processingLeaseExpiresAt.isSome
      | .processed => false

/-- The first actionable event of an order, from the latest to the earliest. -/
def findAuthoritativeOrdersCreateIntake (rows : List OrdersCreateIntakeRow)
    (sourceShopifyOrderId : String) (now : Instant) : Option AuthoritativeOrdersCreateIntake :=
  let events := rows.filter fun r => decide (r.event.sourceShopifyOrderId = some sourceShopifyOrderId)
  let sorted := events.insertionSort fun r r' => r'.receivedAt ≤ r.receivedAt
  (sorted.find? fun r => isActionableOrdersCreateIntake r.event).map fun r =>
    ⟨r.id, r.event.status, r.event.executionAvailableAt, r.event.executionAttemptCount,
      r.event.executionMaxAttempts, r.event.processingGeneration, r.event.processingLeaseExpiresAt,
      getOrdersCreateLeaseState r.event.processingLeaseExpiresAt now⟩

/-! ## Signals -/

/-- Every run of characters that are not letters or digits becomes a dash. -/
def dashRuns : Bool → List Char → List Char
  | _, [] => []
  | inRun, c :: cs =>
      if ('a' ≤ c ∧ c ≤ 'z') ∨ ('0' ≤ c ∧ c ≤ '9') then c :: dashRuns false cs
      else if inRun then dashRuns true cs
      else '-' :: dashRuns true cs

def dropDash : List Char → List Char
  | '-' :: cs => cs
  | cs => cs

def sanitizeSignalPart (value : String) : String :=
  let dashed := dashRuns false (toLowerCase (trim value)).toList
  let stripped := String.ofList (dropDash (dropDash dashed).reverse).reverse
  if stripped = "" then "unknown" else stripped

def buildMissedOrderSignalId (sourceShopifyOrderId : String) : String :=
  "signal-diagnostics-shopify-order-missing-local-" ++ sanitizeSignalPart sourceShopifyOrderId

inductive OperationalSignalStatus
  | active | acknowledged | resolved | ignored
  deriving DecidableEq

inductive OperationalSignalSeverity
  | critical | high | warning
  deriving DecidableEq

inductive SignalMetadata
  | missingOrder (order : RecentShopifyOrderIdentity) (firstDetectedAt lastObservedAt : Instant)
      (executorEnabled : Bool) (intake : Option AuthoritativeOrdersCreateIntake)
  | truncated (ordersScanned : ℕ) (maxOrders : ℤ) (observedAt : Instant)
  | runFailed (ordersScanned errorCount : ℕ) (observedAt : Instant)
  /-- Of any other signal, with its field `sourceShopifyOrderId` when that is a string. -/
  | other (sourceShopifyOrderId : Option String)
  deriving DecidableEq

def SignalMetadata.sourceShopifyOrderId : SignalMetadata → Option String
  | .missingOrder order .. => some order.sourceShopifyOrderId.text
  | .other sourceShopifyOrderId => sourceShopifyOrderId
  | _ => none

structure OperationalSignal where
  id : String
  type : String
  severity : OperationalSignalSeverity
  title : String
  description : String
  suggestedAction : String
  status : OperationalSignalStatus
  ruleKey : String
  triggeredAt : Instant
  resolvedAt : Option Instant
  metadata : SignalMetadata
  deriving DecidableEq

namespace OperationalSignal

variable (signal : OperationalSignal)

/-- The signal is active or acknowledged. -/
def Open : Prop := signal.status = .active ∨ signal.status = .acknowledged

instance : Decidable signal.Open := inferInstanceAs (Decidable (_ ∨ _))

def resolve (now : Instant) : OperationalSignal :=
  { signal with status := .resolved, resolvedAt := some now }

end OperationalSignal

/-- The row that `upsertMissingOrderSignal` creates; its update writes the same columns, but for the
time when the signal was first triggered. -/
def missingOrderSignal (order : RecentShopifyOrderIdentity) (observedAt firstDetectedAt : Instant)
    (intake : Option AuthoritativeOrdersCreateIntake) (executorEnabled : Bool) :
    OperationalSignal where
  id := buildMissedOrderSignalId order.sourceShopifyOrderId.text
  type := MISSED_ORDER_SIGNAL_TYPE
  severity := .critical
  title := "Shopify order " ++ order.sourceShopifyOrderNumber ++ " is missing locally"
  description := "Shopify contains this order, but no local ShopifyOrder exists after the " ++
    "discovery grace period."
  suggestedAction := "Inspect this order in Recovery Center, run Current-State Repair dry-run, " ++
    "review, then explicitly confirm repair if safe."
  status := .active
  ruleKey := MISSED_ORDER_SIGNAL_RULE_KEY
  triggeredAt := observedAt
  resolvedAt := none
  metadata := .missingOrder order firstDetectedAt observedAt executorEnabled intake

def truncationSignal (ordersScanned : ℕ) (maxOrders : ℤ) (observedAt now : Instant) :
    OperationalSignal where
  id := DISCOVERY_TRUNCATION_SIGNAL_ID
  type := "shopify_order_discovery_truncated"
  severity := .warning
  title := "Shopify missed-order discovery reached its run cap"
  description := "The scan stopped after " ++ toString ordersScanned ++
    " orders before Shopify pagination completed."
  suggestedAction := "Review order volume and increase the discovery maximum only after an " ++
    "operational capacity review."
  status := .active
  ruleKey := "shopify_order_discovery_truncated"
  triggeredAt := now
  resolvedAt := none
  metadata := .truncated ordersScanned maxOrders observedAt

def runFailedSignal (ordersScanned errorCount : ℕ) (observedAt now : Instant) :
    OperationalSignal where
  id := DISCOVERY_FAILURE_SIGNAL_ID
  type := "shopify_order_discovery_run_failed"
  severity := .high
  title := "Shopify missed-order discovery did not complete"
  description := "The latest discovery run was incomplete. Existing missing-order signals were " ++
    "preserved."
  suggestedAction := "Review backend diagnostics. The next overlapping scheduled run will retry " ++
    "automatically."
  status := .active
  ruleKey := "shopify_order_discovery_run_failed"
  triggeredAt := now
  resolvedAt := none
  metadata := .runFailed ordersScanned errorCount observedAt

/-! ## The store -/

structure DiscoveryStore where
  /-- `sourceShopifyOrderId` of the local orders. -/
  localOrders : List String
  intakes : List OrdersCreateIntakeRow
  signals : List OperationalSignal

namespace DiscoveryStore

variable (s : DiscoveryStore)

def findSignal (id : String) : Option OperationalSignal := findRow OperationalSignal.id id s.signals

/-- Insert the signal, or write its columns to the row that has its id. -/
def upsertSignal (signal : OperationalSignal) : DiscoveryStore :=
  if signal.id ∈ s.signals.map (·.id) then
    { s with
      signals := updateWhere (fun r => decide (r.id = signal.id))
        (fun r => { signal with triggeredAt := r.triggeredAt }) s.signals }
  else { s with signals := s.signals ++ [signal] }

/-- `resolveSignal`, of each of the ids. -/
def resolveSignals (ids : List String) (now : Instant) : DiscoveryStore :=
  { s with signals :=
      updateWhere (fun r => decide (r.id ∈ ids) && decide r.Open) (·.resolve now) s.signals }

/-- The open signals of missing orders, by order; of two with one order the last counts. -/
def listMissingOrderSignals : List (String × String) :=
  let signals := s.signals.filter fun r =>
    decide (r.type = MISSED_ORDER_SIGNAL_TYPE) && decide r.Open
  let entries := signals.filterMap fun r =>
    (r.metadata.sourceShopifyOrderId.filter fun id => decide (id ≠ "")).map (·, r.id)
  entries.filter fun e => ((entries.filter fun e' => decide (e'.1 = e.1)).getLast?).any
    fun last => decide (last.2 = e.2)

end DiscoveryStore

/-! ## A run -/

structure DiscoveryInput where
  now : Instant
  lookbackDays : ℕ
  gracePeriodMs : ℕ
  maxOrders : ℤ
  executorEnabled : Bool

namespace DiscoveryInput

variable (input : DiscoveryInput)

def createdAtFrom : Instant := input.now - input.lookbackDays * 24 * 60 * 60 * 1000

def createdAtTo : Instant := input.now - input.gracePeriodMs

def InWindow (t : Instant) : Prop := input.createdAtFrom ≤ t ∧ t ≤ input.createdAtTo

instance (t : Instant) : Decidable (input.InWindow t) := inferInstanceAs (Decidable (_ ∧ _))

end DiscoveryInput

structure MissedOrderDiscoveryReport where
  complete : Bool
  truncated : Bool
  ordersScanned : ℕ
  missingOrders : ℕ
  deferredOrders : ℕ
  errors : List String
  deriving DecidableEq

def MissedOrderDiscoveryReport.new : MissedOrderDiscoveryReport := ⟨true, false, 0, 0, 0, []⟩

/-- An error is reported, and the run is not complete. -/
def MissedOrderDiscoveryReport.withError (report : MissedOrderDiscoveryReport) (error : String) :
    MissedOrderDiscoveryReport :=
  { report with complete := false, errors := report.errors ++ [error] }

/-- What the loop over the orders of a page needs. -/
structure DiscoveryPage where
  hasNextPage : Bool
  endCursor : Option ℕ
  /-- The orders that were local when the page was read. -/
  localIds : List String
  deriving DecidableEq

inductive DiscoveryPosition
  | fetch (after : Option ℕ)
  | readLocal (hasNextPage : Bool) (endCursor : Option ℕ)
      (orders : List RecentShopifyOrderIdentity)
  | readIntakes (page : DiscoveryPage) (orders : List RecentShopifyOrderIdentity)
  | beforeWrite (page : DiscoveryPage) (order : RecentShopifyOrderIdentity)
      (intake : Option AuthoritativeOrdersCreateIntake)
      (orders : List (RecentShopifyOrderIdentity × Option AuthoritativeOrdersCreateIntake))
  | findSignal (page : DiscoveryPage) (order : RecentShopifyOrderIdentity)
      (intake : Option AuthoritativeOrdersCreateIntake)
      (orders : List (RecentShopifyOrderIdentity × Option AuthoritativeOrdersCreateIntake))
  | upsertSignal (page : DiscoveryPage) (order : RecentShopifyOrderIdentity)
      (intake : Option AuthoritativeOrdersCreateIntake) (firstDetectedAt : Instant)
      (orders : List (RecentShopifyOrderIdentity × Option AuthoritativeOrdersCreateIntake))
  | afterWrite (page : DiscoveryPage) (order : RecentShopifyOrderIdentity)
      (orders : List (RecentShopifyOrderIdentity × Option AuthoritativeOrdersCreateIntake))
  | resolveWritten (page : DiscoveryPage) (order : RecentShopifyOrderIdentity)
      (orders : List (RecentShopifyOrderIdentity × Option AuthoritativeOrdersCreateIntake))
  | upsertTruncation
  | resolveTruncation
  | listSignals
  | findLocal (bySourceId : List (String × String))
  | resolveLocal (ids : List String)
  | resolveFailure
  | upsertFailure
  | ended (result : Except String MissedOrderDiscoveryReport)
  deriving DecidableEq

structure DiscoveryState where
  store : DiscoveryStore
  report : MissedOrderDiscoveryReport
  position : DiscoveryPosition
  /-- The last answer to whether an order is local. -/
  checked : String → Option Bool
  /-- An error has ended the run early. -/
  interrupted : Bool

inductive DiscoveryAnswer
  | page (answer : Except String FetchRecentShopifyOrdersPageResult)
  /-- A statement ran and was answered. -/
  | statement (now : Instant)
  /-- A statement ran and its answer was lost. -/
  | lost (now : Instant)
  /-- A statement failed without effect. -/
  | failed
  /-- Of several updates only some ran. -/
  | partly (ids : List String) (now : Instant)

def DISCOVERY_STATEMENT_FAILED : String := "The statement failed."

namespace DiscoveryState

variable (input : DiscoveryInput) (d : DiscoveryState)

def goto (position : DiscoveryPosition) : DiscoveryState := { d with position }

def withStore (store : DiscoveryStore) : DiscoveryState := { d with store }

/-- The `if` after the `try`. -/
def finish : DiscoveryState :=
  if d.report.complete = false ∧ d.report.truncated = false then d.goto .upsertFailure
  else d.goto (.ended (.ok d.report))

/-- The `catch` clause. -/
def thrown (error : String) : DiscoveryState :=
  finish { d with report := d.report.withError error, interrupted := true }

/-- The end of the `while` loop. -/
def afterLoop : DiscoveryState :=
  if d.report.truncated then d.goto .upsertTruncation
  else if d.report.complete then d.goto .resolveTruncation
  else d.finish

/-- The condition of the `while` loop. -/
def loopHead (after : Option ℕ) : DiscoveryState :=
  if (d.report.ordersScanned : ℤ) < input.maxOrders then d.goto (.fetch after) else d.afterLoop

def endOfPage (page : DiscoveryPage) : DiscoveryState :=
  if page.hasNextPage = false then d.afterLoop
  else
    match page.endCursor with
    | none => d.thrown "Shopify discovery page indicated more results without an end cursor."
    | some cursor =>
        if input.maxOrders ≤ d.report.ordersScanned then
          afterLoop { d with report := { d.report with complete := false, truncated := true } }
        else d.loopHead input (some cursor)

/-- Go on to the next order that needs a statement. -/
def nextOrder (page : DiscoveryPage) :
    List (RecentShopifyOrderIdentity × Option AuthoritativeOrdersCreateIntake) → DiscoveryState →
      DiscoveryState
  | [], d => d.endOfPage input page
  | (order, intake) :: orders, d =>
      if order.sourceShopifyOrderId.text ∈ page.localIds then nextOrder page orders d
      else if input.executorEnabled = true ∧ intake.isSome then
        nextOrder page orders
          { d with report := { d.report with deferredOrders := d.report.deferredOrders + 1 } }
      else d.goto (.beforeWrite page order intake orders)

/-- The `catch` clause of the loop over the orders. -/
def orderFailed (page : DiscoveryPage)
    (orders : List (RecentShopifyOrderIdentity × Option AuthoritativeOrdersCreateIntake)) :
    DiscoveryState :=
  nextOrder input page orders { d with report := d.report.withError DISCOVERY_STATEMENT_FAILED }

/-- The orders of a page whose date is in the window; a date that cannot be read is reported. -/
def eligibleOrders : List RecentShopifyOrderIdentity → MissedOrderDiscoveryReport →
    List RecentShopifyOrderIdentity × MissedOrderDiscoveryReport
  | [], report => ([], report)
  | order :: orders, report =>
      match order.shopifyCreatedAt.time with
      | none => eligibleOrders orders (report.withError ("Shopify order " ++
          order.sourceShopifyOrderId.text ++ " had an invalid createdAt value."))
      | some t =>
          let (eligible, report) := eligibleOrders orders report
          (if input.InWindow t then order :: eligible else eligible, report)

def received (page : FetchRecentShopifyOrdersPageResult) : DiscoveryState :=
  let report := { d.report with ordersScanned := d.report.ordersScanned + page.nodesCount }
  let report := if 0 < page.malformedNodes then report.withError (toString page.malformedNodes ++
    " Shopify order identity record(s) were malformed and skipped.") else report
  let (eligible, report) := eligibleOrders input page.orders report
  { d with report, position := .readLocal page.hasNextPage page.endCursor eligible }

/-- Whether the order is local is read. -/
def check (ids : List String) : DiscoveryState :=
  { d with checked := fun id =>
      if id ∈ ids then some (decide (id ∈ d.store.localOrders)) else d.checked id }

def isLocal (order : RecentShopifyOrderIdentity) : Prop :=
  order.sourceShopifyOrderId.text ∈ d.store.localOrders

instance (order : RecentShopifyOrderIdentity) : Decidable (d.isLocal order) :=
  inferInstanceAs (Decidable (_ ∈ _))

/-- The next step of the run. -/
def run (answer : DiscoveryAnswer) : Option DiscoveryState :=
  match d.position, answer with
  | .fetch _, .page (.ok page) => some (d.received input page)
  | .fetch _, .page (.error error) => some (d.thrown error)
  | .readLocal hasNextPage endCursor orders, .statement _ =>
      let ids := orders.map (·.sourceShopifyOrderId.text)
      some ((d.check ids).goto (.readIntakes
        ⟨hasNextPage, endCursor, ids.filter fun id => decide (id ∈ d.store.localOrders)⟩ orders))
  | .readIntakes page orders, .statement _ =>
      some (nextOrder input page (orders.map fun order => (order,
        findAuthoritativeOrdersCreateIntake d.store.intakes order.sourceShopifyOrderId.text
          input.now)) d)
  | .beforeWrite page order intake orders, .statement _ =>
      let d := d.check [order.sourceShopifyOrderId.text]
      some (if d.isLocal order then nextOrder input page orders d
        else d.goto (.findSignal page order intake orders))
  | .findSignal page order intake orders, .statement _ =>
      let existing := d.store.findSignal (buildMissedOrderSignalId order.sourceShopifyOrderId.text)
      some (d.goto (.upsertSignal page order intake
        ((existing.map (·.triggeredAt)).getD input.now) orders))
  | .upsertSignal page order intake firstDetectedAt orders, .statement _ =>
      some (goto { d with
          store := d.store.upsertSignal
            (missingOrderSignal order input.now firstDetectedAt intake input.executorEnabled)
          report := { d.report with missingOrders := d.report.missingOrders + 1 } }
        (.afterWrite page order orders))
  | .upsertSignal page order intake firstDetectedAt orders, .lost _ =>
      some (orderFailed input (d.withStore (d.store.upsertSignal
        (missingOrderSignal order input.now firstDetectedAt intake input.executorEnabled)))
          page orders)
  | .afterWrite page order orders, .statement _ =>
      let d := d.check [order.sourceShopifyOrderId.text]
      some (if d.isLocal order then d.goto (.resolveWritten page order orders)
        else nextOrder input page orders d)
  | .resolveWritten page order orders, .statement now =>
      some (nextOrder input page orders (d.withStore (d.store.resolveSignals
        [buildMissedOrderSignalId order.sourceShopifyOrderId.text] now)))
  | .resolveWritten page order orders, .lost now =>
      some (orderFailed input (d.withStore (d.store.resolveSignals
        [buildMissedOrderSignalId order.sourceShopifyOrderId.text] now)) page orders)
  | .beforeWrite page _ _ orders, .failed | .findSignal page _ _ orders, .failed
  | .upsertSignal page _ _ _ orders, .failed | .afterWrite page _ orders, .failed
  | .resolveWritten page _ orders, .failed => some (d.orderFailed input page orders)
  | .upsertTruncation, .statement now =>
      some (finish (d.withStore (d.store.upsertSignal
        (truncationSignal d.report.ordersScanned input.maxOrders input.now now))))
  | .upsertTruncation, .lost now =>
      some (thrown (d.withStore (d.store.upsertSignal
        (truncationSignal d.report.ordersScanned input.maxOrders input.now now)))
          DISCOVERY_STATEMENT_FAILED)
  | .resolveTruncation, .statement now =>
      some ((d.withStore (d.store.resolveSignals [DISCOVERY_TRUNCATION_SIGNAL_ID] now)).goto
        .listSignals)
  | .resolveTruncation, .lost now =>
      some (thrown (d.withStore (d.store.resolveSignals [DISCOVERY_TRUNCATION_SIGNAL_ID] now))
        DISCOVERY_STATEMENT_FAILED)
  | .listSignals, .statement _ =>
      let bySourceId := d.store.listMissingOrderSignals
      some (d.goto (if bySourceId = [] then .resolveFailure else .findLocal bySourceId))
  | .findLocal bySourceId, .statement _ =>
      some ((d.check (bySourceId.map (·.1))).goto (.resolveLocal
        ((bySourceId.filter fun e => decide (e.1 ∈ d.store.localOrders)).map (·.2))))
  | .resolveLocal ids, .statement now =>
      some ((d.withStore (d.store.resolveSignals ids now)).goto .resolveFailure)
  | .resolveLocal ids, .partly done now =>
      some (thrown (d.withStore (d.store.resolveSignals
        (ids.filter fun id => decide (id ∈ done)) now)) DISCOVERY_STATEMENT_FAILED)
  | .resolveFailure, .statement now =>
      some (finish (d.withStore (d.store.resolveSignals [DISCOVERY_FAILURE_SIGNAL_ID] now)))
  | .resolveFailure, .lost now =>
      some (thrown (d.withStore (d.store.resolveSignals [DISCOVERY_FAILURE_SIGNAL_ID] now))
        DISCOVERY_STATEMENT_FAILED)
  | .readLocal .., .failed | .readIntakes .., .failed | .upsertTruncation, .failed
  | .resolveTruncation, .failed | .listSignals, .failed | .findLocal _, .failed
  | .resolveLocal _, .failed | .resolveFailure, .failed =>
      some (d.thrown DISCOVERY_STATEMENT_FAILED)
  | .upsertFailure, .statement now =>
      some ((d.withStore (d.store.upsertSignal (runFailedSignal d.report.ordersScanned
        d.report.errors.length input.now now))).goto (.ended (.ok d.report)))
  | .upsertFailure, .lost now =>
      some ((d.withStore (d.store.upsertSignal (runFailedSignal d.report.ordersScanned
        d.report.errors.length input.now now))).goto (.ended (.error DISCOVERY_STATEMENT_FAILED)))
  | .upsertFailure, .failed => some (d.goto (.ended (.error DISCOVERY_STATEMENT_FAILED)))
  | _, _ => none

/-- The run begins. -/
def begin (store : DiscoveryStore) : DiscoveryState :=
  loopHead input ⟨store, .new, .upsertFailure, fun _ => none, false⟩ none

end DiscoveryState

/-! ## The system -/

inductive DiscoveryMove
  | run (answer : DiscoveryAnswer)
  /-- The order is ingested. -/
  | ingest (sourceShopifyOrderId : String)

def DiscoveryMove.step (input : DiscoveryInput) (m : DiscoveryMove) (d : DiscoveryState) :
    Except Unit DiscoveryState :=
  match m with
  | .run answer => getOrThrow (d.run input answer) ()
  | .ingest id => .ok (d.withStore { d.store with localOrders := d.store.localOrders ++ [id] })

/-- The page that Shopify serves of its orders: at most `first` of them, and at least one when there
are any. -/
def ServesPage (orders : List RecentOrderNode) (after : Option ℕ) (first : ℕ)
    (page : FetchRecentShopifyOrdersPageResult) : Prop :=
  let rest := orders.drop (after.getD 0)
  let cursor := after.getD 0 + page.nodesCount
  page.nodesCount ≤ first ∧ page.nodesCount ≤ rest.length ∧
    (rest ≠ [] → 0 < page.nodesCount) ∧
      page = pageOfNodes (rest.take page.nodesCount) (decide (cursor < orders.length))
        (if cursor < orders.length then some cursor else none)

instance (orders : List RecentOrderNode) (after : Option ℕ) (first : ℕ)
    (page : FetchRecentShopifyOrdersPageResult) : Decidable (ServesPage orders after first page) :=
  inferInstanceAs (Decidable (_ ∧ _ ∧ _ ∧ _))

/-- The number of orders that a request asks for. -/
def DiscoveryState.first (input : DiscoveryInput) (d : DiscoveryState) : ℕ :=
  (min (MISSED_ORDER_DISCOVERY_PAGE_SIZE : ℤ) (input.maxOrders - d.report.ordersScanned)).toNat

/-- Shopify serves the orders of the window. -/
def ServesOrders (input : DiscoveryInput) (orders : List RecentOrderNode) (d : DiscoveryState) :
    DiscoveryMove → Prop
  | .run (.page (.ok page)) =>
      match d.position with
      | .fetch after => ServesPage orders after (d.first input) page
      | _ => True
  | _ => True

instance (input : DiscoveryInput) (orders : List RecentOrderNode) (d : DiscoveryState)
    (m : DiscoveryMove) : Decidable (ServesOrders input orders d m) := by
  unfold ServesOrders
  split
  · split <;> infer_instance
  · infer_instance

end VendorDashboard.Shopify

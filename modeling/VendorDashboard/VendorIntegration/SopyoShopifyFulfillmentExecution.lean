import VendorDashboard.VendorIntegration.SopyoShopifyFulfillmentPlan
import VendorDashboard.Framework.Grouping
import VendorDashboard.Framework.Interleaving

/-!
# Submitting a Sopyo shipment to Shopify

The calls on one shipment intent: `recordVerifiedSopyoShipmentIntent`, `planSopyoShopifyFulfillment`
and `executeSopyoShopifyFulfillment` with its `reconcile`.  Every statement and every request is a
step, so a call can stall or crash between any two of them; a statement can fail, and it can commit
while its answer is lost.  The statements of a transaction are steps of their own too, except that
the writes of one become visible together.

`shown`, `calls` and `submitter` are not columns: they record the fulfillments that Shopify has
shown, the calls that sent `createSopyoFulfillment`, and the call that claimed the submission.  The
id of a plan is the number of the call that created it.
-/

namespace VendorDashboard.VendorIntegration

open Finance (Id Instant)
open Interleaving Text Transaction

/-! ## Fulfillments -/

structure FulfillmentTracking where
  company : Option String
  number : Option String
  deriving DecidableEq

structure FulfillmentEvidenceLine where
  shopifyOrderLineItemGid : String
  quantity : ℤ
  deriving DecidableEq

structure ShopifySopyoFulfillmentEvidence where
  id : String
  orderGid : String
  locationGid : String
  fulfillmentOrderGids : List String
  lines : List FulfillmentEvidenceLine
  tracking : List FulfillmentTracking
  status : String
  deriving DecidableEq

inductive ShopifySopyoFulfillmentCreateResult
  | success (fulfillment : ShopifySopyoFulfillmentEvidence)
  | rejected
  | unknown
  deriving DecidableEq

structure ShopifySopyoFulfillmentCreateInput where
  orderGid : String
  lineItemsByFulfillmentOrder : List (String × List (String × ℤ))
  company : String
  trackingNumber : String
  deriving DecidableEq

/-- What a submission asks for, by fulfillment orders. -/
def createInput (le : LocaleCompare) (plan : SopyoShopifyExecutionPlan)
    (carrier trackingNumber : String) : ShopifySopyoFulfillmentCreateInput :=
  let grouped := Grouping.groups ((sortedLines le plan.lines).map fun line =>
    (line.fulfillmentOrderGid, line.fulfillmentOrderLineItemGid, line.quantity))
  { orderGid := plan.shopifyOrderGid
    lineItemsByFulfillmentOrder := grouped.insertionSort fun a b => le a.1 b.1 = true
    company := carrier
    trackingNumber }

/-- `[...new Set(gids)].sort()`. -/
def distinctGids (gids : List String) : List String := gids.dedup.insertionSort (· ≤ ·)

def quantities (le : LocaleCompare) (lines : List (String × ℤ)) : List (String × ℤ) :=
  (lines.foldl (fun sums line => addQuantity line.1 line.2 sums) []).insertionSort
    fun a b => le a.1 b.1 = true

/-- A fulfillment has to prove the entire plan, not just the tracking pair. -/
def matchesSopyoShopifyExecutionPlan (le : LocaleCompare)
    (evidence : ShopifySopyoFulfillmentEvidence) (plan : SopyoShopifyExecutionPlan)
    (carrier trackingNumber : String) : Bool :=
  let plannedOrders := distinctGids (plan.lines.map (·.fulfillmentOrderGid))
  let actualOrders := distinctGids evidence.fulfillmentOrderGids
  decide (evidence.orderGid = plan.shopifyOrderGid) &&
    decide (evidence.locationGid = plan.shopifyLocationGid) &&
    decide (evidence.status ∉ ["CANCELLED", "ERROR", "FAILURE"]) &&
    decide (actualOrders.length = evidence.fulfillmentOrderGids.length) &&
    decide (actualOrders = plannedOrders) &&
    decide (evidence.tracking = [⟨some carrier, some trackingNumber⟩]) &&
    decide (quantities le (evidence.lines.map fun l => (l.shopifyOrderLineItemGid, l.quantity)) =
      quantities le (plan.lines.map fun l => (l.shopifyOrderLineItemGid, l.quantity)))

/-- A fulfillment that could be the one of the plan. -/
def isCandidate (plan : SopyoShopifyExecutionPlan) (carrier trackingNumber : String)
    (item : ShopifySopyoFulfillmentEvidence) : Bool :=
  decide (item.id ∉ plan.baselineFulfillmentIds) &&
    (item.fulfillmentOrderGids.any (fun id =>
        decide (id ∈ plan.lines.map (·.fulfillmentOrderGid))) ||
      item.tracking.any fun track =>
        decide (track.company = some carrier ∧ track.number = some trackingNumber))

/-- The plan is still what Shopify would be asked for. -/
def assertPlanMatchesCanonical (le : LocaleCompare) (plan : SopyoShopifyExecutionPlan)
    (context : PlanningContext) (canonical : ShopifySopyoFulfillmentPlanRead) : Bool :=
  decide (plan.shopifyOrderGid = expectedOrderGid context.sourceShopifyOrderId) &&
    decide (plan.shopifyLocationGid = context.shopifyLocationGid) &&
    decide (plan.baselineFulfillmentIds = []) && decide (plan.lines ≠ []) &&
    plan.lines.all (fun line => isSafeInteger line.quantity && decide (0 < line.quantity)) &&
    decide (canonical.orderGid = plan.shopifyOrderGid) &&
    decide (buildSopyoShopifyExecutionLines le context.allocationLineItems
      context.otherAllocationLineItemIds context.shopifyLocationGid canonical =
        some (sortedLines le plan.lines))

/-! ## The store -/

structure ShipmentStore where
  vendorAllocationId : Id
  intent : Option SopyoShipmentIntent
  plan : Option SopyoShopifyExecutionPlan
  shown : List ShopifySopyoFulfillmentEvidence
  calls : List ℕ
  submitter : Option ℕ

/-- A store without an intent for the allocation. -/
def ShipmentStore.New (s : ShipmentStore) : Prop :=
  s.intent = none ∧ s.plan = none ∧ s.shown = [] ∧ s.calls = [] ∧ s.submitter = none

namespace ShipmentStore

variable (s : ShipmentStore)

def see (evidence : List ShopifySopyoFulfillmentEvidence) : ShipmentStore :=
  { s with shown := s.shown ++ evidence }

def setIntent (row : SopyoShipmentIntent) : ShipmentStore := { s with intent := some row }

/-- Update the intent if it satisfies `p`, and count the rows; `none` when the database refuses the
new row. -/
def updateMany (p : SopyoShipmentIntent → Prop) [DecidablePred p]
    (f : SopyoShipmentIntent → SopyoShipmentIntent) : Option (ShipmentStore × ℕ) :=
  match s.intent with
  | none => some (s, 0)
  | some row =>
      if p row then
        if (f row).Checked then some (s.setIntent (f row), 1) else none
      else some (s, 0)

/-- `create`; an allocation has one intent. -/
def createIntent (row : SopyoShipmentIntent) : Option (ShipmentStore × ℕ) :=
  if s.intent = none ∧ row.Checked then some (s.setIntent row, 1) else none

/-- The update of an intent that was read. -/
def conflictIntent (now : Instant) : Option (ShipmentStore × ℕ) :=
  (s.updateMany (fun _ => True) fun row => row.markConflict .cargoMismatch now).filter
    fun written => decide (written.2 = 1)

/-- The plan and the status of the intent; an intent has one plan. -/
def createPlan (plan : SopyoShopifyExecutionPlan) : Option (ShipmentStore × ℕ) :=
  if s.plan = none then
    ((s.updateMany (fun _ => True) fun row => { row with status := .planReady }).filter
      fun written => decide (written.2 = 1)).map
        fun written => ({ written.1 with plan := some plan }, written.2)
  else none

/-- The claim of the submission by call `i`. -/
def claimSubmission (i : ℕ) (now : Instant) : Option (ShipmentStore × ℕ) :=
  (s.updateMany (fun row => row.status = .planReady ∧ row.submissionStartedAt = none ∧
    row.shopifyFulfillmentId = none) fun row => row.submit now).map fun written =>
      if written.2 = 1 then ({ written.1 with submitter := some i }, 1) else written

/-- Confirm a fulfillment from one of the statuses. -/
def confirm (fromStatuses : List SopyoShipmentIntentStatus)
    (f : ShopifySopyoFulfillmentEvidence) (now : Instant) : Option (ShipmentStore × ℕ) :=
  s.updateMany (fun row => row.status ∈ fromStatuses) fun row =>
    { row.identify f.id now with status := .confirmed }

/-- Never lose a proven identity in a cargo conflict. -/
def preserve (f : ShopifySopyoFulfillmentEvidence) (now : Instant) : Option (ShipmentStore × ℕ) :=
  s.updateMany (fun row => row.CargoConflict ∧ row.shopifyFulfillmentId = none)
    fun row => row.identify f.id now

/-- `transition` to another status. -/
def moveTo (fromStatuses : List SopyoShipmentIntentStatus) (status : SopyoShipmentIntentStatus) :
    Option (ShipmentStore × ℕ) :=
  s.updateMany (fun row => row.status ∈ fromStatuses) fun row => { row with status }

/-- `transition` to a conflict. -/
def moveToConflict (fromStatuses : List SopyoShipmentIntentStatus) (reason : SopyoConflictReason)
    (now : Instant) : Option (ShipmentStore × ℕ) :=
  s.updateMany (fun row => row.status ∈ fromStatuses) fun row => row.markConflict reason now

end ShipmentStore

def plannableStatuses : List SopyoShipmentIntentStatus :=
  [.cargoVerified, .selectionPending, .planReady]

def reconcilable : List SopyoShipmentIntentStatus :=
  [.submissionPending, .outcomeUnknown, .reconciliationPending]

/-! ## The calls -/

structure ShopifyConfig where
  apiVersion : String
  shopDomain : Option String
  adminAccessToken : Option String

def ShopifyConfig.configured (env : ShopifyConfig) : Bool :=
  decide (env.apiVersion = "2026-01") && isTruthy env.shopDomain && isTruthy env.adminAccessToken

inductive ShipmentInput
  | record (input : RecordInput)
  | plan
  | execute (env : ShopifyConfig)

/-- What a call returns or throws. -/
inductive ShipmentResult
  | intent (row : SopyoShipmentIntent)
  | plan (plan : SopyoShopifyExecutionPlan)
  /-- `none`: another guard or the database threw. -/
  | threw (error : Option SopyoShipmentError)
  deriving DecidableEq

/-- What a submission is about to send. -/
structure Submission where
  plan : SopyoShopifyExecutionPlan
  carrier : String
  trackingNumber : String
  deriving DecidableEq

/-- What a reconciliation concludes from the fulfillments of the order. -/
inductive ReconcileDecision
  | exact (f : ShopifySopyoFulfillmentEvidence) (cargoConflict : Bool)
  | ambiguous
  /-- Nothing is visible, or nothing could be read. -/
  | unseen
  deriving DecidableEq

/-- The position of a call.  `proven` is the fulfillment that the mutation returned, when the call
has stored it. -/
inductive ShipmentCall
  | recordRead (input : RecordInput)
  | recordCreate (row : SopyoShipmentIntent)
  | recordConflict
  | planLoad
  | planFetch (before : PlanningContext)
  | planReload (before : PlanningContext) (orderGid : String)
      (lines : List SopyoShopifyExecutionPlanLine)
  | planFind (current : PlanningContext) (orderGid : String)
      (lines : List SopyoShopifyExecutionPlanLine)
  | planCreate (plan : SopyoShopifyExecutionPlan)
  | planConflict (reason : SopyoConflictReason) (error : SopyoShipmentError)
  | executeRead (env : ShopifyConfig)
  | executeFetch (initial : SopyoShipmentIntent) (plan : SopyoShopifyExecutionPlan)
  | executeLoad (initial : SopyoShipmentIntent) (plan : SopyoShopifyExecutionPlan)
      (canonical : ShopifySopyoFulfillmentPlanRead)
  | executeFind (initial : SopyoShipmentIntent) (plan : SopyoShopifyExecutionPlan)
      (canonical : ShopifySopyoFulfillmentPlanRead) (context : PlanningContext)
  | executeLocal (submission : Submission)
  | claim (submission : Submission)
  | preSubmissionConflict (reason : SopyoConflictReason) (error : SopyoShipmentError)
  | create (submission : Submission)
  /-- `createSopyoFulfillment` was called. -/
  | awaitCreate (submission : Submission)
  | confirm (f : ShopifySopyoFulfillmentEvidence)
  | preserve (f : ShopifySopyoFulfillmentEvidence)
  | reject
  | unknown
  | reconcileRead
  | reconcileFetch (intent : SopyoShipmentIntent) (plan : SopyoShopifyExecutionPlan)
  | settle (decision : ReconcileDecision)
  | readBack (proven : Option ShopifySopyoFulfillmentEvidence)
  | ended (result : ShipmentResult) (proven : Option ShopifySopyoFulfillmentEvidence)

/-- The local fulfillment of the allocation. -/
structure LocalFulfillment where
  shopifyFulfillmentId : Option String
  syncStatus : String

inductive ShipmentAnswer
  | statement (now : Instant)
  /-- A statement or a request fails and has no effect. -/
  | failed
  /-- A statement commits and its answer is lost. -/
  | lost (now : Instant)
  | recordReads (reads : RecordReads)
  | planningReads (reads : PlanningReads)
  | canonical (canonical : ShopifySopyoFulfillmentPlanRead)
  | localFulfillment (fulfillment : Option LocalFulfillment)
  | evidence (evidence : List ShopifySopyoFulfillmentEvidence)
  /-- The request of `createSopyoFulfillment` is sent. -/
  | sent
  | created (result : ShopifySopyoFulfillmentCreateResult)

namespace ShipmentCall

def threw (error : Option SopyoShipmentError) : ShipmentCall := .ended (.threw error) none

/-- Return the intent of the store. -/
def returnIntent (s : ShipmentStore) (proven : Option ShopifySopyoFulfillmentEvidence) :
    ShipmentCall :=
  match s.intent with
  | none => threw none
  | some row => .ended (.intent row) proven

/-- Write, and go on by the store and the number of rows that were changed. -/
def write (s : ShipmentStore) (answer : ShipmentAnswer)
    (written : Instant → Option (ShipmentStore × ℕ)) (next : ShipmentStore → ℕ → ShipmentCall)
    (error : ShipmentCall) : Option (ShipmentStore × ShipmentCall) :=
  match answer with
  | .statement now =>
      match written now with
      | none => some (s, error)
      | some (s', count) => some (s', next s' count)
  | .lost now =>
      match written now with
      | none => some (s, error)
      | some (s', _) => some (s', error)
  | .failed => some (s, error)
  | _ => none

/-- What `recordVerifiedSopyoShipmentIntent` does with the intent it finds. -/
def afterRecord (existing : Option SopyoShipmentIntent) :
    Except (Option SopyoShipmentError) SopyoShipmentIntent → ShipmentCall
  | .error error => threw error
  | .ok verified =>
      match existing with
      | none => .recordCreate verified
      | some existing =>
          if existing.sameIdentity verified then
            if (existing.carrier = verified.carrier ∧
                existing.trackingNumber = verified.trackingNumber) ∨ existing.status = .conflict then
              .ended (.intent existing) none
            else .recordConflict
          else threw (some .identityMismatch)

def afterPlanFetch (le : LocaleCompare) (before : PlanningContext)
    (canonical : ShopifySopyoFulfillmentPlanRead) : ShipmentCall :=
  if canonical.orderGid = expectedOrderGid before.sourceShopifyOrderId then
    match buildSopyoShopifyExecutionLines le before.allocationLineItems
        before.otherAllocationLineItemIds before.shopifyLocationGid canonical with
    | none => .planConflict .shopifyPlanUnsafe .shopifyPlanUnsafe
    | some lines => .planReload before canonical.orderGid lines
  else .planConflict .shopifyReadIncomplete .shopifyReadIncomplete

def afterPlanReload (before : PlanningContext) (orderGid : String)
    (lines : List SopyoShopifyExecutionPlanLine) :
    Except (Option SopyoShipmentError) PlanningContext → ShipmentCall
  | .error error => threw error
  | .ok current =>
      if current.unchangedSince before then .planFind current orderGid lines
      else .planConflict .shopifyPlanChanged .shopifyPlanChanged

def afterPlanFind (le : LocaleCompare) (i : ℕ) (current : PlanningContext) (orderGid : String)
    (lines : List SopyoShopifyExecutionPlanLine) :
    Option SopyoShopifyExecutionPlan → ShipmentCall
  | some existing =>
      if existing.agrees le orderGid current.shopifyLocationGid lines then
        .ended (.plan existing) none
      else .planConflict .shopifyPlanChanged .shopifyPlanChanged
  | none =>
      if current.intent.status = .planReady then
        .planConflict .shopifyPlanChanged .shopifyPlanChanged
      else .planCreate ⟨i, orderGid, current.shopifyLocationGid, [], lines⟩

/-- Where a call of `executeSopyoShopifyFulfillment` goes by the intent and the plan it reads. -/
def afterExecute (intent : Option SopyoShipmentIntent) (plan : Option SopyoShopifyExecutionPlan) :
    ShipmentCall :=
  match intent, plan with
  | some initial, some plan =>
      if initial.status = .confirmed ∨ isTruthy initial.shopifyFulfillmentId then
        .ended (.intent initial) none
      else if initial.status = .conflict then
        if initial.conflictReasonCode = some .cargoMismatch ∧ initial.submissionStartedAt ≠ none then
          .reconcileRead
        else .ended (.intent initial) none
      else if initial.status.Reconcilable then .reconcileRead
      else if initial.status = .planReady then .executeFetch initial plan
      else threw (some .notReady)
  | _, _ => threw (some .notReady)

def afterExecuteLoad (initial : SopyoShipmentIntent) (plan : SopyoShopifyExecutionPlan)
    (canonical : ShopifySopyoFulfillmentPlanRead) :
    Except (Option SopyoShipmentError) PlanningContext → ShipmentCall
  | .error _ => .preSubmissionConflict .shopifyPlanChanged .identityMismatch
  | .ok context =>
      if context.intent.status = .planReady then .executeFind initial plan canonical context
      else .readBack none

def afterExecuteFind (le : LocaleCompare) (initial : SopyoShipmentIntent)
    (initialPlan : SopyoShopifyExecutionPlan) (canonical : ShopifySopyoFulfillmentPlanRead)
    (context : PlanningContext) : Option SopyoShopifyExecutionPlan → ShipmentCall
  | none => .preSubmissionConflict .shopifyPlanChanged .shopifyPlanChanged
  | some plan =>
      if plan.id = initialPlan.id ∧ context.intent.carrier = initial.carrier ∧
          context.intent.trackingNumber = initial.trackingNumber ∧
          assertPlanMatchesCanonical le plan context canonical then
        .executeLocal ⟨plan, context.intent.carrier, context.intent.trackingNumber⟩
      else .preSubmissionConflict .shopifyPlanChanged .shopifyPlanChanged

def afterExecuteLocal (submission : Submission) (fulfillment : Option LocalFulfillment) :
    ShipmentCall :=
  if ∃ f ∈ fulfillment, isTruthy f.shopifyFulfillmentId ∨
      f.syncStatus = "fulfillment_submission_pending" then
    .preSubmissionConflict .shopifyPlanChanged .shopifyPlanChanged
  else .claim submission

def afterCreate (le : LocaleCompare) (submission : Submission) :
    ShopifySopyoFulfillmentCreateResult → ShipmentCall
  | .success f =>
      if matchesSopyoShopifyExecutionPlan le f submission.plan submission.carrier
          submission.trackingNumber then .confirm f
      else .unknown
  | .rejected => .reject
  | .unknown => .unknown

def ShopifyResultShows : ShopifySopyoFulfillmentCreateResult →
    List ShopifySopyoFulfillmentEvidence
  | .success f => [f]
  | _ => []

/-- Where `reconcile` goes by the intent and the plan it reads. -/
def afterReconcile (intent : Option SopyoShipmentIntent) (plan : Option SopyoShopifyExecutionPlan) :
    ShipmentCall :=
  match intent, plan with
  | some intent, some plan =>
      if intent.status = .confirmed ∨ isTruthy intent.shopifyFulfillmentId then
        .ended (.intent intent) none
      else if intent.status.Reconcilable ∨
          (intent.CargoConflict ∧ intent.submissionStartedAt ≠ none) then
        .reconcileFetch intent plan
      else threw (some .notReady)
  | _, _ => threw (some .notReady)

/-- What the fulfillments of the order decide. -/
def afterEvidence (le : LocaleCompare) (intent : SopyoShipmentIntent)
    (plan : SopyoShopifyExecutionPlan) (evidence : List ShopifySopyoFulfillmentEvidence) :
    ShipmentCall :=
  match evidence.filter (isCandidate plan intent.carrier intent.trackingNumber) with
  | [] =>
      if intent.CargoConflict ∧ intent.submissionStartedAt ≠ none then .readBack none
      else .settle .unseen
  | [f] =>
      if matchesSopyoShopifyExecutionPlan le f plan intent.carrier intent.trackingNumber then
        .settle (.exact f (decide (intent.CargoConflict ∧ intent.submissionStartedAt ≠ none)))
      else .settle .ambiguous
  | _ => .settle .ambiguous

/-- The write of a reconciliation. -/
def settleWrite (s : ShipmentStore) (now : Instant) :
    ReconcileDecision → Option (ShipmentStore × ℕ)
  | .exact f true => s.preserve f now
  | .exact f false => s.confirm reconcilable f now
  | .ambiguous => s.moveToConflict reconcilable .shopifyReconciliationAmbiguous now
  | .unseen => s.moveTo reconcilable .outcomeUnknown

def run (le : LocaleCompare) (i : ℕ) (answer : ShipmentAnswer) (s : ShipmentStore) :
    ShipmentCall → Option (ShipmentStore × ShipmentCall)
  | .recordRead input =>
      match answer with
      | .recordReads reads =>
          if ∀ allocation ∈ reads.allocation, allocation.id = s.vendorAllocationId then
            some (s, afterRecord s.intent (verifiedIntent input reads))
          else none
      | .failed => some (s, threw none)
      | _ => none
  | .recordCreate row =>
      write s answer (fun _ => s.createIntent row) (fun _ _ => .ended (.intent row) none)
        (threw none)
  | .recordConflict =>
      write s answer s.conflictIntent (fun s' _ => returnIntent s' none) (threw none)
  | .planLoad =>
      match answer with
      | .planningReads reads =>
          match loadSopyoShopifyPlanningContext s.intent reads with
          | .error error => some (s, threw error)
          | .ok before => some (s, .planFetch before)
      | .failed => some (s, threw none)
      | _ => none
  | .planFetch before =>
      match answer with
      | .canonical canonical => some (s, afterPlanFetch le before canonical)
      | .failed => some (s, .planConflict .shopifyReadIncomplete .shopifyReadIncomplete)
      | _ => none
  | .planReload before orderGid lines =>
      match answer with
      | .planningReads reads =>
          some (s, afterPlanReload before orderGid lines
            (loadSopyoShopifyPlanningContext s.intent reads))
      | .failed => some (s, threw none)
      | _ => none
  | .planFind current orderGid lines =>
      match answer with
      | .statement _ => some (s, afterPlanFind le i current orderGid lines s.plan)
      | .failed => some (s, threw none)
      | _ => none
  | .planCreate plan =>
      write s answer (fun _ => s.createPlan plan) (fun _ _ => .ended (.plan plan) none)
        (threw none)
  | .planConflict reason error =>
      write s answer (s.moveToConflict plannableStatuses reason) (fun _ _ => threw (some error))
        (threw none)
  | .executeRead env =>
      if env.configured then
        match answer with
        | .statement _ => some (s, afterExecute s.intent s.plan)
        | .failed => some (s, threw none)
        | _ => none
      else some (s, threw (some .shopifyNotConfigured))
  | .executeFetch initial plan =>
      match answer with
      | .canonical canonical => some (s, .executeLoad initial plan canonical)
      | .failed => some (s, .preSubmissionConflict .shopifyReadIncomplete .shopifyReadIncomplete)
      | _ => none
  | .executeLoad initial plan canonical =>
      match answer with
      | .planningReads reads =>
          some (s, afterExecuteLoad initial plan canonical
            (loadSopyoShopifyPlanningContext s.intent reads))
      | .failed => some (s, .preSubmissionConflict .shopifyPlanChanged .identityMismatch)
      | _ => none
  | .executeFind initial plan canonical context =>
      match answer with
      | .statement _ => some (s, afterExecuteFind le initial plan canonical context s.plan)
      | .failed => some (s, .preSubmissionConflict .shopifyPlanChanged .identityMismatch)
      | _ => none
  | .executeLocal submission =>
      match answer with
      | .localFulfillment fulfillment => some (s, afterExecuteLocal submission fulfillment)
      | .failed => some (s, .preSubmissionConflict .shopifyPlanChanged .identityMismatch)
      | _ => none
  | .claim submission =>
      write s answer (s.claimSubmission i)
        (fun _ count => if count = 1 then .create submission else .readBack none)
        (.preSubmissionConflict .shopifyPlanChanged .identityMismatch)
  | .preSubmissionConflict reason error =>
      write s answer (s.moveToConflict [.planReady] reason) (fun _ _ => threw (some error))
        (threw none)
  | .create submission =>
      match answer with
      | .sent => some ({ s with calls := s.calls ++ [i] }, .awaitCreate submission)
      | .failed => some (s, .unknown)
      | _ => none
  | .awaitCreate submission =>
      match answer with
      | .created result =>
          some (s.see (ShopifyResultShows result), afterCreate le submission result)
      | .failed => some (s, .unknown)
      | _ => none
  | .confirm f =>
      write s answer (s.confirm [.submissionPending, .outcomeUnknown] f)
        (fun _ count => if count = 0 then .preserve f else .readBack (some f)) (threw none)
  | .preserve f => write s answer (s.preserve f) (fun _ _ => .readBack (some f)) (threw none)
  | .reject =>
      write s answer (s.moveToConflict [.submissionPending] .shopifyCreateRejected)
        (fun _ _ => .readBack none) (threw none)
  | .unknown =>
      write s answer (fun _ => s.moveTo [.submissionPending] .outcomeUnknown)
        (fun _ _ => .readBack none) (threw none)
  | .reconcileRead =>
      match answer with
      | .statement _ => some (s, afterReconcile s.intent s.plan)
      | .failed => some (s, threw none)
      | _ => none
  | .reconcileFetch intent plan =>
      match answer with
      | .evidence evidence => some (s.see evidence, afterEvidence le intent plan evidence)
      | .failed => some (s, .settle .unseen)
      | _ => none
  | .settle decision =>
      write s answer (fun now => settleWrite s now decision) (fun _ _ => .readBack none) (threw none)
  | .readBack proven =>
      match answer with
      | .statement _ => some (s, returnIntent s proven)
      | .failed => some (s, threw none)
      | _ => none
  | .ended _ _ => none

end ShipmentCall

def ShipmentInput.call : ShipmentInput → ShipmentCall
  | .record input => .recordRead input
  | .plan => .planLoad
  | .execute env => .executeRead env

/-- Any number of calls on one shipment intent. -/
def sopyoShipment (le : LocaleCompare) :
    Program ShipmentStore ShipmentCall ShipmentInput ShipmentAnswer Empty where
  start := ShipmentInput.call
  run := ShipmentCall.run le
  outside := fun e _ => e.elim

end VendorDashboard.VendorIntegration

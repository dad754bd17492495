import VendorDashboard.Framework.Interleaving
import VendorDashboard.Framework.Text
import VendorDashboard.Finance.Schema

/-!
# Pushing an order to Sopyo

`dispatchSopyoOrderPush` on one push.  A call claims the push with a token of its own, reads the
order (`loadCanonicalPayload`), asks the provider for an existing order, creates it at most once and
writes the outcome while it still holds the claim.  Every statement and every answer of the
provider is a step, so a call can stall or crash between any two of them.

The payload is built by `buildSopyoOrderPayload` from the allocation and the retained webhook; its
result is only compared and sent on, so it is a parameter.  The rows that a call reads elsewhere
come from outside.

`calls`, `seen` and `claimant` are not columns: they record the calls of `createOrderOnce` with
what became of them, the orders that the provider has shown, and the call that took the push out of
`PENDING`.
-/

namespace VendorDashboard.VendorIntegration

open Finance (Id Instant VendorOutboundMethod VendorIntegrationProviderCode AllocationStatus)
open Interleaving Text Transaction

/-! ## The push -/

inductive SopyoOrderPushStatus
  | pending | processing | succeeded | blocked | reconcileRequired
  deriving DecidableEq

structure SopyoOrderPush where
  vendorAllocationId : Id
  assignedVendorId : Id
  orderCode : Id
  status : SopyoOrderPushStatus
  claimToken : Option ℕ
  processingStartedAt : Option Instant
  completedAt : Option Instant
  sopyoOrderId : Option ℕ
  reasonCode : Option String
  httpStatus : Option ℕ
  deriving DecidableEq

/-- The push that the ingestion of an order creates. -/
def SopyoOrderPush.created (vendorAllocationId assignedVendorId : Id) : SopyoOrderPush where
  vendorAllocationId
  assignedVendorId
  orderCode := vendorAllocationId
  status := .pending
  claimToken := none
  processingStartedAt := none
  completedAt := none
  sopyoOrderId := none
  reasonCode := none
  httpStatus := none

def STALE_PROCESSING_MS : ℤ := 30 * 60 * 1000

inductive PushResult
  | created | reconciledExisting | reconciledAfterAmbiguous
  deriving DecidableEq

/-- The arguments of `finish`. -/
structure PushOutcome where
  status : SopyoOrderPushStatus
  reasonCode : Option String
  sopyoOrderId : Option ℕ
  httpStatus : Option ℕ
  result : Option PushResult
  deriving DecidableEq

/-- What `dispatchSopyoOrderPush` returns; `status` is `none` for `NOT_CLAIMED`. -/
structure DispatchResult where
  status : Option SopyoOrderPushStatus
  reasonCode : Option String
  sopyoOrderId : Option ℕ
  httpStatus : Option ℕ
  result : Option PushResult
  deriving DecidableEq

def DispatchResult.notClaimed (reasonCode : String) : DispatchResult :=
  ⟨none, some reasonCode, none, none, none⟩

def PushOutcome.toResult (o : PushOutcome) : DispatchResult :=
  ⟨some o.status, o.reasonCode, o.sopyoOrderId, o.httpStatus, o.result⟩

namespace SopyoOrderPush

variable (push : SopyoOrderPush)

/-- The condition of a claim. -/
def Claimable (reconcileOnly : Bool) (claimTime : Instant) : Prop :=
  match reconcileOnly with
  | true => push.status = .reconcileRequired ∨ (push.status = .processing ∧
      ∃ t ∈ push.processingStartedAt, t ≤ claimTime - STALE_PROCESSING_MS)
  | false => push.status = .pending

instance (reconcileOnly : Bool) (claimTime : Instant) :
    Decidable (push.Claimable reconcileOnly claimTime) :=
  match reconcileOnly with
  | true => inferInstanceAs (Decidable (_ ∨ _ ∧ _))
  | false => inferInstanceAs (Decidable (_ = _))

def claim (token : ℕ) (claimTime : Instant) : SopyoOrderPush :=
  { push with
    status := .processing
    claimToken := some token
    processingStartedAt := some claimTime }

/-- The update of `finish`; `none` when the claim is lost. -/
def finish (token : ℕ) (o : PushOutcome) (now : Instant) : Option SopyoOrderPush :=
  if push.status = .processing ∧ push.claimToken = some token then
    some
      { push with
        status := o.status
        claimToken := none
        reasonCode := o.reasonCode
        sopyoOrderId := o.sopyoOrderId
        httpStatus := o.httpStatus
        completedAt := if o.status = .succeeded ∨ o.status = .blocked then some now else none }
  else none

end SopyoOrderPush

/-! ## The payload -/

structure SopyoPayloadOrder where
  id : Id
  sourceShopifyOrderId : String
  cancelledAt : Option Instant
  currency : String
  totalPrice : Option ℚ
  discountAmount : Option ℚ
  shippingAmount : Option ℚ
  taxesIncluded : Option Bool

structure SopyoPayloadOrderLine where
  shopifyOrderId : Id
  sku : Option String
  title : Option String
  quantity : ℤ
  unitPrice : Option ℚ
  lineTotalVatIncluded : Option ℚ

structure SopyoPayloadLine where
  quantity : ℤ
  lineAmount : Option ℚ
  shopifyOrderLineItem : SopyoPayloadOrderLine

structure SopyoPayloadAllocation where
  id : Id
  assignedVendorId : Id
  outboundMethodSnapshot : Option VendorOutboundMethod
  outboundIntegrationProviderSnapshot : Option VendorIntegrationProviderCode
  allocationStatus : AllocationStatus
  reassignmentRequired : Bool
  order : SopyoPayloadOrder
  lineItems : List SopyoPayloadLine

/-- The rows that `loadCanonicalPayload` reads. -/
structure CanonicalReads where
  allocation : Option SopyoPayloadAllocation
  allocationCount : ℕ
  orderLineCount : ℕ
  /-- `rawPayload` of the processed webhooks of the order. -/
  events : List (Option String)

/-- `buildSopyoOrderPayload`: it fails with a code of its own, or otherwise. -/
abbrev BuildSopyoOrderPayload (β : Type) :=
  SopyoPayloadAllocation → String → ℚ → ℤ → Except (Option String) β

def hasText (s : Option String) : Bool := s.any fun s => decide (trim s ≠ "")

/-- The push still stands for this allocation. -/
def allocationAuthority (allocation : SopyoPayloadAllocation) (push : SopyoOrderPush) : Bool :=
  decide (allocation.id = push.orderCode) &&
    decide (allocation.assignedVendorId = push.assignedVendorId) &&
    decide (allocation.outboundMethodSnapshot = some .vendorIntegration) &&
    decide (allocation.outboundIntegrationProviderSnapshot = some .sopyo) &&
    decide (allocation.allocationStatus = .active) && !allocation.reassignmentRequired &&
    decide (allocation.order.cancelledAt = none)

/-- The amount and the quantity of an order that consists of one line, paid in full. -/
def singleLineAmount (allocation : SopyoPayloadAllocation) (reads : CanonicalReads) :
    Option (ℚ × ℤ) :=
  match allocation.lineItems with
  | [line] => do
      let item := line.shopifyOrderLineItem
      let amount ← line.lineAmount
      let unitPrice ← item.unitPrice
      let lineTotal ← item.lineTotalVatIncluded
      let shipping ← allocation.order.shippingAmount
      let total ← allocation.order.totalPrice
      if reads.allocationCount = 1 ∧ reads.orderLineCount = 1 ∧ 0 < line.quantity ∧
          item.shopifyOrderId = allocation.order.id ∧ item.quantity = line.quantity ∧
          hasText item.sku ∧ hasText item.title ∧ allocation.order.currency = "TRY" ∧
          allocation.order.taxesIncluded = some true ∧
          allocation.order.discountAmount = some 0 ∧ 0 ≤ shipping ∧ 0 < amount ∧
          amount = lineTotal ∧ amount = unitPrice * line.quantity ∧ total = amount + shipping then
        some (amount, line.quantity)
      else none
  | _ => none

variable {β : Type}

/-- An error is the reason why the push cannot go on; a reconciliation needs no payload. -/
def loadCanonicalPayload (build : BuildSopyoOrderPayload β) (push : SopyoOrderPush)
    (reconcileOnly : Bool) (reads : CanonicalReads) : Except String (Option β) := do
  let allocation ← getOrThrow reads.allocation "ALLOCATION_AUTHORITY_MISMATCH"
  require (allocationAuthority allocation push) "ALLOCATION_AUTHORITY_MISMATCH"
  if reconcileOnly then pure none
  else do
    let (amount, quantity) ← getOrThrow (singleLineAmount allocation reads)
      "MONETARY_MAPPING_UNSUPPORTED"
    let rawPayload ← getOrThrow
      (match reads.events with | [some raw] => if raw = "" then none else some raw | _ => none)
      "RAW_WEBHOOK_NOT_UNIQUE"
    match build allocation rawPayload amount quantity with
    | .ok payload => pure (some payload)
    | .error code => .error (code.getD "PAYLOAD_UNAVAILABLE")

/-! ## The provider -/

structure SopyoOrderByCode where
  id : ℕ
  orderCode : Id
  orderType : Option String
  deriving DecidableEq

inductive SopyoCreateOrderResult
  | created (id : ℕ) (orderCode : Id) (orderType : String)
  | rejected (httpStatus : ℕ) (message : String)
  | ambiguous (ambiguousReason : String) (httpStatus : Option ℕ)
  deriving DecidableEq

def SopyoCreateOrderResult.IsRejected : SopyoCreateOrderResult → Prop
  | .rejected _ _ => True
  | _ => False

instance (r : SopyoCreateOrderResult) : Decidable r.IsRejected :=
  match r with
  | .created .. => inferInstanceAs (Decidable False)
  | .rejected .. => inferInstanceAs (Decidable True)
  | .ambiguous .. => inferInstanceAs (Decidable False)

/-- The order that an answer shows. -/
def SopyoCreateOrderResult.shown : SopyoCreateOrderResult → List SopyoOrderByCode
  | .created id orderCode orderType => [⟨id, orderCode, some orderType⟩]
  | _ => []

/-- A call of `createOrderOnce` by a run: its answer, once there is one, and whether the provider
has created an order for it. -/
structure CreateCall where
  run : ℕ
  result : Option SopyoCreateOrderResult
  effect : Bool
  deriving DecidableEq

/-! ## The store -/

structure SopyoPushStore where
  push : SopyoOrderPush
  calls : List CreateCall
  seen : List SopyoOrderByCode
  claimant : Option ℕ

/-- A store with a new push. -/
def SopyoPushStore.New (s : SopyoPushStore) : Prop :=
  ∃ vendorAllocationId assignedVendorId,
    s = ⟨SopyoOrderPush.created vendorAllocationId assignedVendorId, [], [], none⟩

namespace SopyoPushStore

variable (s : SopyoPushStore)

/-- A claim by run `i`. -/
def claimBy (i : ℕ) (reconcileOnly : Bool) (claimTime : Instant) : SopyoPushStore :=
  { s with
    push := s.push.claim i claimTime
    claimant := if reconcileOnly then s.claimant else some i }

/-- Run `i` calls `createOrderOnce`. -/
def call (i : ℕ) : SopyoPushStore := { s with calls := s.calls ++ [⟨i, none, false⟩] }

/-- Change the call of run `i`. -/
def updateCall (i : ℕ) (f : CreateCall → CreateCall) : SopyoPushStore :=
  { s with calls := s.calls.map fun c => if c.run = i then f c else c }

def see (orders : List SopyoOrderByCode) : SopyoPushStore := { s with seen := s.seen ++ orders }

end SopyoPushStore

/-! ## The dispatch -/

inductive DispatchPosition (β : Type)
  | readPush
  | claim (push : SopyoOrderPush)
  | loadPayload (push : SopyoOrderPush)
  | authenticate (push : SopyoOrderPush) (payload : Option β)
  | lookup (push : SopyoOrderPush) (payload : Option β)
  | reloadPayload (push : SopyoOrderPush) (payload : β)
  | create (push : SopyoOrderPush) (payload : β)
  /-- `createOrderOnce` was called. -/
  | awaitCreate (push : SopyoOrderPush)
  | lookupAfter (push : SopyoOrderPush) (httpStatus : Option ℕ)
  | finish (push : SopyoOrderPush) (outcome : PushOutcome)
  /-- `none`: an error was thrown. -/
  | ended (result : Option DispatchResult)

structure Dispatch (β : Type) where
  reconcileOnly : Bool
  position : DispatchPosition β

/-- What a step of a dispatch finds outside. -/
inductive DispatchAnswer
  | statement (now : Instant)
  /-- A statement or a request fails and has no effect. -/
  | failed
  /-- A statement commits and its answer is lost. -/
  | lost (now : Instant)
  | reads (reads : CanonicalReads)
  | authenticated
  | orders (orders : List SopyoOrderByCode)
  /-- The request of `createOrderOnce` is sent. -/
  | sent
  | result (result : SopyoCreateOrderResult)

namespace Dispatch

variable (d : Dispatch β)

def goTo (position : DispatchPosition β) : Dispatch β := { d with position }

/-- Write an outcome. -/
def finishWith (push : SopyoOrderPush) (status : SopyoOrderPushStatus)
    (reasonCode : Option String) (sopyoOrderId httpStatus : Option ℕ) (result : Option PushResult) :
    Dispatch β :=
  d.goTo (.finish push ⟨status, reasonCode, sopyoOrderId, httpStatus, result⟩)

/-- Give up before the order was created. -/
def giveUp (push : SopyoOrderPush) (reasonCode : String) : Dispatch β :=
  d.finishWith push (if d.reconcileOnly then .reconcileRequired else .blocked) (some reasonCode) none
    none none

def afterLoad (push : SopyoOrderPush) : Except String (Option β) → Dispatch β
  | .error reasonCode => d.giveUp push reasonCode
  | .ok payload => d.goTo (.authenticate push payload)

/-- What the first lookup decides. -/
def afterLookup (push : SopyoOrderPush) (payload : Option β) (existing : List SopyoOrderByCode) :
    Dispatch β :=
  match existing with
  | [order] =>
      if order.orderType = some "SOPYOAPI" then
        d.finishWith push .succeeded none (some order.id) none (some .reconciledExisting)
      else d.finishWith push .reconcileRequired (some "EXISTING_ORDER_CONFLICT") none none none
  | _ :: _ => d.finishWith push .reconcileRequired (some "EXISTING_ORDER_CONFLICT") none none none
  | [] =>
      if d.reconcileOnly then
        d.finishWith push .reconcileRequired (some "ORDER_NOT_FOUND") none none none
      else
        match payload with
        | none => d.finishWith push .blocked (some "PAYLOAD_UNAVAILABLE") none none none
        | some payload => d.goTo (.reloadPayload push payload)

/-- The payload is unchanged just before it is sent. -/
def afterReload [DecidableEq β] (push : SopyoOrderPush) (payload : β)
    (beforeCreate : Except String (Option β)) : Dispatch β :=
  match beforeCreate with
  | .ok (some fresh) =>
      if fresh = payload then d.goTo (.create push fresh)
      else d.finishWith push .blocked (some "SOURCE_CHANGED_BEFORE_CREATE") none none none
  | _ => d.finishWith push .blocked (some "SOURCE_CHANGED_BEFORE_CREATE") none none none

def afterCreate (push : SopyoOrderPush) : SopyoCreateOrderResult → Dispatch β
  | .created id orderCode orderType =>
      if orderCode = push.orderCode ∧ orderType = "SOPYOAPI" then
        d.finishWith push .succeeded none (some id) (some 201) (some .created)
      else
        d.finishWith push .reconcileRequired (some "CREATE_IDENTITY_CONFLICT") none (some 201) none
  | .rejected httpStatus _ =>
      d.finishWith push .blocked (some "PROVIDER_REJECTED") none (some httpStatus) none
  | .ambiguous _ httpStatus => d.goTo (.lookupAfter push httpStatus)

/-- What the lookup after an ambiguous answer decides. -/
def afterAmbiguous (push : SopyoOrderPush) (httpStatus : Option ℕ)
    (after : List SopyoOrderByCode) : Dispatch β :=
  match after with
  | [] =>
      d.finishWith push .reconcileRequired (some "NOT_FOUND_AFTER_AMBIGUOUS_CREATE") none httpStatus
        none
  | [order] =>
      if order.orderType = some "SOPYOAPI" then
        d.finishWith push .succeeded none (some order.id) httpStatus
          (some .reconciledAfterAmbiguous)
      else
        d.finishWith push .reconcileRequired (some "AMBIGUOUS_ORDER_CONFLICT") none httpStatus none
  | _ =>
      d.finishWith push .reconcileRequired (some "AMBIGUOUS_ORDER_CONFLICT") none httpStatus none

/-- The claim by run `i`. -/
def claim (i : ℕ) (s : SopyoPushStore) (push : SopyoOrderPush) (claimTime : Instant) :
    SopyoPushStore × Dispatch β :=
  if s.push.Claimable d.reconcileOnly claimTime then
    (s.claimBy i d.reconcileOnly claimTime, d.goTo (.loadPayload push))
  else (s, d.goTo (.ended (some (.notClaimed
    (if d.reconcileOnly then "NOT_RECONCILABLE" else "ALREADY_CLAIMED")))))

/-- The outcome is written by run `i`, if the claim is still its own. -/
def finish (i : ℕ) (s : SopyoPushStore) (outcome : PushOutcome) (now : Instant) :
    SopyoPushStore × Dispatch β :=
  match s.push.finish i outcome now with
  | none => (s, d.goTo (.ended (some (.notClaimed "CLAIM_LOST"))))
  | some push => ({ s with push }, d.goTo (.ended (some outcome.toResult)))

def run [DecidableEq β] (build : BuildSopyoOrderPayload β) (i : ℕ) (answer : DispatchAnswer)
    (s : SopyoPushStore) (d : Dispatch β) : Option (SopyoPushStore × Dispatch β) :=
  match d.position, answer with
  | .readPush, .statement _ => some (s, d.goTo (.claim s.push))
  | .claim push, .statement claimTime => some (d.claim i s push claimTime)
  | .claim push, .lost claimTime => some ((d.claim i s push claimTime).1, d.goTo (.ended none))
  | .loadPayload push, .reads reads =>
      some (s, d.afterLoad push (loadCanonicalPayload build push d.reconcileOnly reads))
  | .authenticate push payload, .authenticated => some (s, d.goTo (.lookup push payload))
  | .authenticate push _, .failed => some (s, d.giveUp push "AUTH_UNAVAILABLE")
  | .lookup push payload, .orders orders => some (s.see orders, d.afterLookup push payload orders)
  | .lookup push _, .failed => some (s, d.giveUp push "LOOKUP_UNAVAILABLE")
  | .reloadPayload push payload, .reads reads =>
      some (s, d.afterReload push payload (loadCanonicalPayload build push false reads))
  | .create push _, .sent => some (s.call i, d.goTo (.awaitCreate push))
  | .awaitCreate push, .result result =>
      some ((s.updateCall i fun c => { c with result := some result }).see result.shown,
        d.afterCreate push result)
  | .lookupAfter push httpStatus, .orders orders =>
      some (s.see orders, d.afterAmbiguous push httpStatus orders)
  | .lookupAfter push httpStatus, .failed =>
      some (s, d.finishWith push .reconcileRequired (some "LOOKUP_FAILED_AFTER_AMBIGUOUS_CREATE")
        none httpStatus none)
  | .finish _ outcome, .statement now => some (d.finish i s outcome now)
  | .finish _ outcome, .lost now => some ((d.finish i s outcome now).1, d.goTo (.ended none))
  | .ended _, _ => none
  | .readPush, .failed | .claim _, .failed | .loadPayload _, .failed | .reloadPayload _ _, .failed
  | .finish _ _, .failed => some (s, d.goTo (.ended none))
  | _, _ => none

end Dispatch

/-- The provider creates the order of a call, if it has not done so. -/
structure TakesEffect where
  run : ℕ

/-- Any number of calls of `dispatchSopyoOrderPush`; the input is `reconcileOnly`. -/
def sopyoOrderPushDispatch [DecidableEq β] (build : BuildSopyoOrderPayload β) :
    Program SopyoPushStore (Dispatch β) Bool DispatchAnswer TakesEffect where
  start := fun reconcileOnly => ⟨reconcileOnly, .readPush⟩
  run := Dispatch.run build
  outside := fun e s => some (s.updateCall e.run fun c => { c with effect := true })

/-- What is known of the provider: it finds only orders with the code it is asked for, and it
creates no order for a call that it answers `REJECTED`. -/
def ProviderBehaves (w : World SopyoPushStore (Dispatch β)) :
    Move Bool DispatchAnswer TakesEffect → Prop
  | .run _ (.orders orders) => ∀ o ∈ orders, o.orderCode = w.shared.push.orderCode
  | .run i (.result result) => result.IsRejected →
      ∀ c ∈ w.shared.calls, c.run = i → c.effect = false
  | .outside e => ∀ c ∈ w.shared.calls, c.run = e.run → ∀ r ∈ c.result, ¬r.IsRejected
  | _ => True

instance (w : World SopyoPushStore (Dispatch β)) (m : Move Bool DispatchAnswer TakesEffect) :
    Decidable (ProviderBehaves w m) :=
  match m with
  | .run _ (.orders orders) =>
      inferInstanceAs (Decidable (∀ o ∈ orders, o.orderCode = w.shared.push.orderCode))
  | .run i (.result result) =>
      inferInstanceAs (Decidable (result.IsRejected →
        ∀ c ∈ w.shared.calls, c.run = i → c.effect = false))
  | .outside e => inferInstanceAs (Decidable
      (∀ c ∈ w.shared.calls, c.run = e.run → ∀ r ∈ c.result, ¬r.IsRejected))
  | .start _ _ => isTrue trivial
  | .run _ (.statement _) => isTrue trivial
  | .run _ .failed => isTrue trivial
  | .run _ (.lost _) => isTrue trivial
  | .run _ (.reads _) => isTrue trivial
  | .run _ .authenticated => isTrue trivial
  | .run _ .sent => isTrue trivial

end VendorDashboard.VendorIntegration

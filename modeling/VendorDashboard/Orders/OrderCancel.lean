import VendorDashboard.Orders.RefundAttempts

/-!
# Cancelling the order

`processCustomerCancellationOrderCancel` runs for one item, after the item was found refunded.
It asks Shopify to cancel the whole order, waits for the cancellation job and, once Shopify
shows the order cancelled, approves the item.  Here are its reads and writes of the local
tables; the calls between them are steps of the system.
-/

namespace VendorDashboard.Orders

open Finance (Id Instant)
open Table

/-- What the item's row says at the start. -/
inductive OrderCancelStart
  | itemNotFound
  | alreadyLocallyApproved
  | notRefundedAwaitingOrderCancel
  /-- Go on, with the job of an earlier cancellation when one is recorded. -/
  | proceed (existingJobId : Option Id)
  deriving DecidableEq

namespace CancellationDb

variable (db : CancellationDb)

def readPersistedOrderCancelJobId (itemId : Id) : Option Id :=
  (db.attemptOf itemId).bind (·.orderCancelJobId)

def startOrderCancel (itemId : Id) : OrderCancelStart :=
  match db.findItem itemId with
  | none => .itemNotFound
  | some item =>
      if item.status = .approved then .alreadyLocallyApproved
      else if item.status ≠ .refundedAwaitingOrderCancel then .notRefundedAwaitingOrderCancel
      else .proceed (db.readPersistedOrderCancelJobId itemId)

/-- The job of the cancellation, stored with the item's attempt. -/
def persistOrderCancelEvidence (itemId : Id) (jobId : Option Id) : CancellationDb :=
  match db.attemptOf itemId with
  | none => db
  | some attempt => db.updateAttempt attempt.id fun a => { a with orderCancelJobId := jobId }

def finalizeApproved (itemId : Id) (now : Instant) : CancellationDb :=
  match db.findItem itemId with
  | none => db
  | some current =>
      if current.status ≠ .refundedAwaitingOrderCancel then db
      else
        let statuses := statusesWith (db.itemsOf current.requestId) itemId .approved
        db.moveItem current .approved
          (some (current.resolvedQuantity.getD current.requestedQuantity)) statuses
          (if allTerminal statuses then some now else none)

end CancellationDb

end VendorDashboard.Orders

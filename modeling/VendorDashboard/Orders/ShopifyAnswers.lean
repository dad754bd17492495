import VendorDashboard.Finance.Schema
import VendorDashboard.Framework.Table
import VendorDashboard.Framework.Text

/-!
# What Shopify answers

The answers of the Admin API that the cancellation services read, and the two pure checks that
they run on them: `classifyCanonicalRefundMonetaryEvidence`, which decides for each refund
whether money moved, and `validateSuggestedRefundForSubmission`, which decides whether a
suggested refund may be submitted.

A resource identifier is its numeric part.  A money field is the result of parsing it: minor
units, or `none` when it is missing or malformed.
-/

namespace VendorDashboard.Orders

open Finance (Id)
open Text

/-- Trimmed, and absent when nothing is left. -/
def presentText (s : Option String) : Option String :=
  (s.map trim).filter fun t => decide (t ≠ "")

/-- `trim().toUpperCase()` of a currency code, when one is left. -/
def normalizedCurrency (s : Option String) : Option String := (presentText s).map toUpperCase

/-- Both codes are present and name different currencies. -/
def currencyConflict (a b : Option String) : Bool :=
  match normalizedCurrency a, normalizedCurrency b with
  | some x, some y => decide (x ≠ y)
  | _, _ => false

/-- A positive amount; a missing one is not. -/
def isPositiveMoneyAmount (amountMinor : Option ℤ) : Bool := amountMinor.any fun a => decide (0 < a)

/-! ## Orders, returns and fulfillment orders -/

structure OrderLineSnapshot where
  lineItemId : Id
  currentQuantity : Option ℤ
  refundableQuantity : Option ℤ
  deriving DecidableEq

structure OrderSnapshot where
  cancelled : Bool
  lineItems : List OrderLineSnapshot
  deriving DecidableEq

structure FulfillmentOrderLine where
  lineItemId : Id
  remainingQuantity : Option ℤ

structure FulfillmentOrder where
  status : Option String
  requestStatus : Option String
  assignedLocationId : Option Id
  lineItems : List FulfillmentOrderLine

/-! ## Refunds -/

/-- An amount with its upper-case currency. -/
structure ParsedMoney where
  minor : ℤ
  currency : String
  deriving DecidableEq

/-- A payment transaction of a refund; kind and status are upper-case. -/
structure RefundTransaction where
  transactionGid : Id
  kind : String
  status : String
  money : ParsedMoney
  parentTransactionGid : Option Id
  deriving DecidableEq

structure CanonicalRefund where
  sourceShopifyRefundId : Id
  totalRefunded : Option ParsedMoney
  transactionPaginationComplete : Bool
  lineItemPaginationComplete : Bool
  /-- A transaction that lacks its identifier, kind, status or amount is `none`. -/
  transactions : List (Option RefundTransaction)
  /-- Order line and quantity. -/
  refundLineItems : List (Id × ℕ)

structure CanonicalRefunds where
  orderTotalRefunded : Option ParsedMoney
  orderTotalRefundedShippingAmount : Option ℤ
  orderTotalRefundedShippingCurrencyCode : Option String
  refundsListComplete : Bool
  refunds : List CanonicalRefund

/-- The quantity that a list of refund lines takes off an order line. -/
def refundedQuantity (lines : List (Id × ℕ)) (lineItemId : Id) : ℕ :=
  ((lines.filter fun l => decide (l.1 = lineItemId)).map Prod.snd).sum

def exactRefundedQuantity (refund : CanonicalRefund) (lineItemId : Id) : ℕ :=
  refundedQuantity refund.refundLineItems lineItemId

/-! ## Monetary evidence -/

inductive RefundMonetaryClassification
  | monetaryRefund | zeroValueVoid | nonFinalRefund | unsupportedOrAmbiguous
  deriving DecidableEq

def REFUND_TRANSACTION_KIND : String := "REFUND"

def VOID_TRANSACTION_KIND : String := "VOID"

def FINAL_TRANSACTION_STATUS : String := "SUCCESS"

/-- Each transaction once, under its first occurrence. -/
def uniqueTransactions : List RefundTransaction → List RefundTransaction
  | [] => []
  | t :: ts =>
      t :: (uniqueTransactions ts).filter fun u => decide (u.transactionGid ≠ t.transactionGid)

/-- The successful positive refund transactions of a refund. -/
def localPositiveRefunds (unique : List RefundTransaction) (refund : CanonicalRefund) : List ℤ :=
  (uniqueTransactions refund.transactions.reduceOption).filterMap fun t =>
    (unique.find? fun u => decide (u.transactionGid = t.transactionGid)).bind fun u =>
      if u.kind = REFUND_TRANSACTION_KIND ∧ u.status = FINAL_TRANSACTION_STATUS ∧ 0 < u.money.minor
      then some u.money.minor else none

def hasSuccessfulVoid (unique : List RefundTransaction) (refund : CanonicalRefund) : Bool :=
  refund.transactions.reduceOption.any fun t =>
    (unique.find? fun u => decide (u.transactionGid = t.transactionGid)).any fun u =>
      decide (u.kind = VOID_TRANSACTION_KIND) && decide (u.status = FINAL_TRANSACTION_STATUS) &&
        decide (u.money.minor = 0)

/-- The verdict on one refund; none when its total contradicts its transactions. -/
def classifyRefund (orderTotal : ParsedMoney) (unique : List RefundTransaction)
    (refund : CanonicalRefund) : Option (Id × RefundMonetaryClassification) :=
  match refund.totalRefunded with
  | none => none
  | some refundTotal =>
      let localRefundAmount := (localPositiveRefunds unique refund).sum
      if refundTotal.currency ≠ orderTotal.currency then none
      else if localRefundAmount ≠ refundTotal.minor then none
      else if 0 < localRefundAmount then some (refund.sourceShopifyRefundId, .monetaryRefund)
      else if hasSuccessfulVoid unique refund then
        some (refund.sourceShopifyRefundId, .zeroValueVoid)
      else some (refund.sourceShopifyRefundId, .unsupportedOrAmbiguous)

/-- The per-refund verdicts of `classifyCanonicalRefundMonetaryEvidence`; evidence that is
incomplete or contradictory as a whole yields none. -/
def classifyCanonicalRefundMonetaryEvidence (collection : CanonicalRefunds) :
    List (Id × RefundMonetaryClassification) :=
  let all := collection.refunds.flatMap (·.transactions)
  let unique := uniqueTransactions all.reduceOption
  match collection.orderTotalRefunded with
  | none => []
  | some orderTotal =>
      if !collection.refundsListComplete then []
      else if collection.refunds.any fun r => !r.transactionPaginationComplete then []
      else if collection.refunds.any fun r => !r.lineItemPaginationComplete then []
      else if all.reduceOption.any fun t => unique.any fun u =>
          decide (u.transactionGid = t.transactionGid) && decide (u ≠ t) then []
      else if all.any Option.isNone then []
      else if unique.any fun u =>
          decide (u.kind = VOID_TRANSACTION_KIND) && decide (0 < u.money.minor) then []
      else if unique.any fun u => decide (u.money.currency ≠ orderTotal.currency) then []
      else if unique.any fun u =>
          decide (u.kind = REFUND_TRANSACTION_KIND) && decide (u.status ≠ FINAL_TRANSACTION_STATUS)
      then []
      else if unique.isEmpty then []
      else collection.refunds.filterMap (classifyRefund orderTotal unique)

/-! ## Suggested refunds -/

structure SuggestedTransaction where
  parentTransactionId : Option Id
  amountMinor : Option ℤ
  gateway : Option String
  currencyCode : Option String

structure SuggestedRefund where
  suggestedTransactions : List SuggestedTransaction
  totalRefundAmount : Option ℤ
  shippingMaximumRefundableAmount : Option ℤ
  shippingCurrencyCode : Option String

structure PreviewSuggestedRefundResult where
  refundLineItemsPreview : List (Id × ℕ)
  suggestedRefund : Option SuggestedRefund
  graphqlErrors : List String

/-- A transaction of a refund submission. -/
structure RefundSubmissionTransaction where
  parentTransactionId : Option Id
  amountMinor : Option ℤ
  gateway : Option String
  deriving DecidableEq

def suggestedTransactionBlockers (orderCurrency : Option String) (t : SuggestedTransaction) :
    List String :=
  (if t.parentTransactionId.isNone then
    ["Suggested refund transaction is missing parentTransactionId. RefundCreate must not run."]
   else []) ++
  (if t.amountMinor.isNone then
    ["Suggested refund transaction is missing amount. RefundCreate must not run."] else []) ++
  (if (presentText t.gateway).isNone then
    ["Suggested refund transaction is missing gateway. RefundCreate must not run."] else []) ++
  (if currencyConflict t.currencyCode orderCurrency then
    ["Suggested refund transaction currency conflicts with the order currency. " ++
      "RefundCreate must not run."] else [])

/-- The blockers of a suggested refund, and the transactions that would be submitted. -/
def validateSuggestedRefundForSubmission (preview : PreviewSuggestedRefundResult)
    (orderCurrency : Option String) : List String × List RefundSubmissionTransaction :=
  let transactions := (preview.suggestedRefund.map (·.suggestedTransactions)).getD []
  ((preview.graphqlErrors.map fun e => "Shopify suggested refund returned GraphQL error: " ++ e) ++
    (if transactions.isEmpty then
      ["Suggested refund has no refundable payment transaction. RefundCreate must not run."]
     else []) ++
    transactions.flatMap (suggestedTransactionBlockers orderCurrency),
   transactions.map fun t =>
    { parentTransactionId := t.parentTransactionId
      amountMinor := t.amountMinor
      gateway := presentText t.gateway })

/-! ## Submissions -/

/-- `shopify-refund:<allocation>:<attempt>`. -/
structure ShopifyRefundIdempotencyKey where
  allocationId : Id
  attemptId : Id
  deriving DecidableEq

structure CreateShopifyRefundInput where
  orderId : Id
  /-- Order line and quantity. -/
  refundLineItems : List (Id × ℕ)
  locationId : Option Id
  transactions : List RefundSubmissionTransaction
  shipping : Option ℤ
  idempotencyKey : ShopifyRefundIdempotencyKey
  deriving DecidableEq

/-! ## The reads of one classification -/

/-- The four reads that a classification starts with; an order, refund or return read may
answer that there is nothing. -/
structure CanonicalReads where
  order : Option OrderSnapshot
  refunds : Option CanonicalRefunds
  /-- The order lines of each return. -/
  returns : Option (List (List Id))
  fulfillmentOrders : List FulfillmentOrder

/-- Everything that Shopify answers to one classification; `none` is a call that throws. -/
structure ShopifyAnswers where
  reads : Option CanonicalReads
  previewSuggestedRefund : List (Id × ℕ) → Option ℤ → Option PreviewSuggestedRefundResult

end VendorDashboard.Orders

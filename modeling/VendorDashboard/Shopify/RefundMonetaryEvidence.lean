import VendorDashboard.Framework.Decimal
import VendorDashboard.Framework.Table
import VendorDashboard.Framework.Text

/-!
# Monetary evidence of refunds

What Shopify's refunds and their transactions say about the money that went back to a customer.
`classifyCanonicalRefundMonetaryEvidence` collects the transactions of all refunds once each, sums
them per refund and over the order, and compares the sums with the totals that Shopify reports.
`classifyCustomerRefundCompletion` compares the refunded total with the received one.

Amounts are exact decimals, but the decimal library rounds every sum to `PRECISION` significant
digits.  In the answers an amount is the number; its text is determined by it.  Upper-casing is a
parameter: nothing is used of the tables by which it is done.
-/

namespace VendorDashboard.Shopify

open Decimal Table Text

/-! ## What Shopify answers -/

structure RefundTransaction where
  transactionGid : String
  kind : Option String
  status : Option String
  amount : Option String
  currencyCode : Option String
  parentTransactionGid : Option String
  deriving DecidableEq

structure RefundLineItem where
  refundLineItemGid : String
  lineItemGid : Option String
  sourceLineItemId : Option String
  quantity : ℚ
  deriving DecidableEq

structure RefundSnapshot where
  refundGid : String
  sourceShopifyRefundId : String
  totalRefundedAmount : Option String
  totalRefundedCurrencyCode : Option String
  transactionPaginationComplete : Bool
  lineItemPaginationComplete : Bool
  transactions : List RefundTransaction
  refundLineItems : List RefundLineItem
  deriving DecidableEq

structure RefundCollection where
  orderGid : String
  sourceShopifyOrderId : String
  displayFinancialStatus : Option String
  orderTotalReceivedAmount : Option String
  orderTotalReceivedCurrencyCode : Option String
  orderTotalRefundedAmount : Option String
  orderTotalRefundedCurrencyCode : Option String
  orderNetPaymentAmount : Option String
  orderNetPaymentCurrencyCode : Option String
  orderTotalOutstandingAmount : Option String
  orderTotalOutstandingCurrencyCode : Option String
  orderTotalRefundedShippingAmount : Option String
  refundsListComplete : Bool
  refunds : List RefundSnapshot
  deriving DecidableEq

/-! ## Money -/

/-- The significant digits of the decimal library. -/
def PRECISION : ℕ := 20

def plus (x y : ℚ) : ℚ := roundSignificant PRECISION (x + y)

def minus (x y : ℚ) : ℚ := roundSignificant PRECISION (x - y)

def sumDecimals (values : List ℚ) : ℚ := values.foldl plus 0

structure ParsedMoney where
  decimal : ℚ
  /-- The sign, which a zero can have too. -/
  isNegative : Bool
  amount : String
  currency : String
  deriving DecidableEq

variable (toUpperCase : String → String)

/-- A status, a kind or a currency: trimmed and in upper case, empty when it is missing. -/
def normalizeWord (word : Option String) : String :=
  (word.map fun s => toUpperCase (trim s)).getD ""

def parseMoney (amount currencyCode : Option String) : Option ParsedMoney :=
  (scanDecimal (trim (amount.getD "")).toList).bind fun text =>
    if normalizeWord toUpperCase currencyCode = "" then none
    else some ⟨text.value, text.negative, text.plainText, normalizeWord toUpperCase currencyCode⟩

/-! ## The answers -/

inductive RefundMonetaryClassification
  | monetaryRefund | zeroValueVoid | nonFinalRefund | unsupportedOrAmbiguous
  deriving DecidableEq

inductive RefundMonetaryEvidenceReasonCode
  | monetaryRefundVerified | zeroValueVoidNotMonetaryRefund | monetaryRefundTransactionMissing
  | nonFinalRefundTransaction | refundTransactionAmbiguous | canonicalRefundCurrencyMismatch
  | canonicalRefundAmountMismatch | canonicalRefundTransactionsIncomplete
  | canonicalRefundLineItemsIncomplete | canonicalRefundsListIncomplete
  | duplicateRefundTransactionConflict
  deriving DecidableEq

structure SelectedTransactionEvidence where
  transactionGid : String
  kind : String
  status : String
  amount : String
  currency : String
  deriving DecidableEq

structure RefundItemMonetaryEvidence where
  sourceShopifyRefundId : String
  classification : RefundMonetaryClassification
  monetaryRefundAmount : ℚ
  currency : Option String
  reasonCode : RefundMonetaryEvidenceReasonCode
  sanitizedWarnings : List String
  selectedTransactions : List SelectedTransactionEvidence
  deriving DecidableEq

/-- What every answer of a classification carries. -/
structure EvidenceCommon where
  totalTransactionCount : ℕ
  uniqueTransactionCount : ℕ
  successfulRefundTransactionCount : ℕ
  successfulVoidTransactionCount : ℕ
  nonFinalTransactionCount : ℕ
  duplicateTransactionCount : ℕ
  refundAggregateAmount : Option ℚ
  orderAggregateAmount : Option ℚ
  transactionPaginationComplete : Bool
  lineItemPaginationComplete : Bool
  refundsListComplete : Bool
  deriving DecidableEq

structure RefundMonetaryEvidence where
  common : EvidenceCommon
  classification : RefundMonetaryClassification
  monetaryRefundAmount : ℚ
  currency : Option String
  aggregateMismatch : Bool
  currencyMismatch : Bool
  incompletePagination : Bool
  reasonCode : RefundMonetaryEvidenceReasonCode
  sanitizedWarnings : List String
  refunds : List RefundItemMonetaryEvidence
  deriving DecidableEq

/-- `safeResult` of an answer that verifies no money. -/
def safeResult (common : EvidenceCommon) (classification : RefundMonetaryClassification)
    (reasonCode : RefundMonetaryEvidenceReasonCode) (warnings : List String)
    (refunds : List RefundItemMonetaryEvidence) : RefundMonetaryEvidence where
  common
  classification
  monetaryRefundAmount := 0
  currency := none
  aggregateMismatch := false
  currencyMismatch := false
  incompletePagination := !common.transactionPaginationComplete ||
    !common.lineItemPaginationComplete || !common.refundsListComplete
  reasonCode
  sanitizedWarnings := warnings
  refunds

/-! ## Collecting the transactions -/

structure UniqueTransaction where
  fingerprint : String
  kind : String
  status : String
  money : ParsedMoney
  source : RefundTransaction
  deriving DecidableEq

def fingerprintOf (kind status amount currency parent : String) : String :=
  kind ++ "|" ++ status ++ "|" ++ amount ++ "|" ++ currency ++ "|" ++ parent

/-- A transaction under its identifier, unless it is malformed. -/
def normalizeTransaction (transaction : RefundTransaction) : Option (String × UniqueTransaction) :=
  let transactionId := trim transaction.transactionGid
  let kind := normalizeWord toUpperCase transaction.kind
  let status := normalizeWord toUpperCase transaction.status
  (parseMoney toUpperCase transaction.amount transaction.currencyCode).bind fun money =>
    if transactionId = "" ∨ kind = "" ∨ status = "" then none
    else some (transactionId,
      { fingerprint := fingerprintOf kind status money.amount money.currency
          (transaction.parentTransactionGid.getD "")
        kind
        status
        money
        source := transaction })

namespace UniqueTransaction

variable (u : UniqueTransaction)

def IsNonFinalRefund : Prop := u.kind = "REFUND" ∧ u.status ≠ "SUCCESS"

def IsPositiveVoid : Prop := u.kind = "VOID" ∧ 0 < u.money.decimal

def IsSuccessfulRefund : Prop := u.kind = "REFUND" ∧ u.status = "SUCCESS" ∧ 0 < u.money.decimal

def IsZeroVoid : Prop := u.kind = "VOID" ∧ u.status = "SUCCESS" ∧ u.money.decimal = 0

instance : Decidable u.IsNonFinalRefund := inferInstanceAs (Decidable (_ ∧ _))
instance : Decidable u.IsPositiveVoid := inferInstanceAs (Decidable (_ ∧ _))
instance : Decidable u.IsSuccessfulRefund := inferInstanceAs (Decidable (_ ∧ _ ∧ _))
instance : Decidable u.IsZeroVoid := inferInstanceAs (Decidable (_ ∧ _ ∧ _))

end UniqueTransaction

structure CollectedTransactions where
  uniqueTransactions : List (String × UniqueTransaction)
  duplicateTransactionCount : ℕ
  duplicateConflict : Bool
  malformedTransaction : Bool
  currencyMismatch : Bool
  positiveVoid : Bool
  nonFinalTransactionCount : ℕ
  deriving DecidableEq

def CollectedTransactions.empty : CollectedTransactions := ⟨[], 0, false, false, false, false, 0⟩

/-- One transaction.  The first of an identifier stays, and the others are compared with it. -/
def collectTransaction (orderTotal : ParsedMoney) (st : CollectedTransactions)
    (transaction : RefundTransaction) : CollectedTransactions :=
  match normalizeTransaction toUpperCase transaction with
  | none => { st with malformedTransaction := true }
  | some (transactionId, unique) =>
      match findRow Prod.fst transactionId st.uniqueTransactions with
      | some existing =>
          { st with
            duplicateTransactionCount := st.duplicateTransactionCount + 1
            duplicateConflict := st.duplicateConflict ||
              decide (existing.2.fingerprint ≠ unique.fingerprint) }
      | none =>
          { st with
            uniqueTransactions := st.uniqueTransactions ++ [(transactionId, unique)]
            nonFinalTransactionCount := st.nonFinalTransactionCount +
              if unique.IsNonFinalRefund then 1 else 0
            positiveVoid := st.positiveVoid || decide unique.IsPositiveVoid
            currencyMismatch := st.currencyMismatch ||
              decide (unique.money.currency ≠ orderTotal.currency) }

/-- The transactions of all refunds, in their order. -/
def collectTransactions (orderTotal : ParsedMoney) (refunds : List RefundSnapshot) :
    CollectedTransactions :=
  (refunds.flatMap (·.transactions)).foldl (collectTransaction toUpperCase orderTotal) .empty

/-! ## Summing the refunds -/

structure SummedRefunds where
  perRefundResults : List RefundItemMonetaryEvidence
  globalSuccessfulRefunds : List (String × ℚ)
  successfulVoidTransactionCount : ℕ
  aggregateMismatch : Bool
  currencyMismatch : Bool

def SummedRefunds.empty : SummedRefunds := ⟨[], [], 0, false, false⟩

/-- `Map.set`. -/
def setEntry (entries : List (String × ℚ)) (entry : String × ℚ) : List (String × ℚ) :=
  if entry.1 ∈ entries.map Prod.fst then
    updateWhere (fun e => decide (e.1 = entry.1)) (fun _ => entry) entries
  else entries ++ [entry]

/-- The entry of a transaction that returned money. -/
def entryOf (p : String × UniqueTransaction) : String × ℚ := (p.1, p.2.money.decimal)

/-- The transactions of one refund, each once, as they were collected. -/
def localTransactions (unique : List (String × UniqueTransaction))
    (transactions : List RefundTransaction) : List (String × UniqueTransaction) :=
  (transactions.map fun t => trim t.transactionGid).eraseDups.filterMap fun transactionId =>
    findRow Prod.fst transactionId unique

def selectedTransaction (u : UniqueTransaction) : SelectedTransactionEvidence where
  transactionGid := u.source.transactionGid
  kind := u.source.kind.getD ""
  status := u.source.status.getD ""
  amount := u.source.amount.getD ""
  currency := u.source.currencyCode.getD ""

/-- The result of a refund whose transactions sum up to its total. -/
def itemResult (refund : RefundSnapshot) (currency : String) (amount : ℚ)
    (positive : List (String × UniqueTransaction)) (successfulVoidCount : ℕ) :
    RefundItemMonetaryEvidence :=
  if 0 < amount then
    { sourceShopifyRefundId := refund.sourceShopifyRefundId
      classification := .monetaryRefund
      monetaryRefundAmount := amount
      currency := some currency
      reasonCode := .monetaryRefundVerified
      sanitizedWarnings := []
      selectedTransactions := positive.map fun p => selectedTransaction p.2 }
  else if 0 < successfulVoidCount then
    { sourceShopifyRefundId := refund.sourceShopifyRefundId
      classification := .zeroValueVoid
      monetaryRefundAmount := 0
      currency := some currency
      reasonCode := .zeroValueVoidNotMonetaryRefund
      sanitizedWarnings := []
      selectedTransactions := [] }
  else
    { sourceShopifyRefundId := refund.sourceShopifyRefundId
      classification := .unsupportedOrAmbiguous
      monetaryRefundAmount := 0
      currency := some currency
      reasonCode := .monetaryRefundTransactionMissing
      sanitizedWarnings :=
        ["Canonical Shopify refund has no successful positive monetary transaction."]
      selectedTransactions := [] }

def RefundSnapshot.total (refund : RefundSnapshot) : Option ParsedMoney :=
  parseMoney toUpperCase refund.totalRefundedAmount refund.totalRefundedCurrencyCode

/-- One refund. -/
def sumRefund (orderTotal : ParsedMoney) (unique : List (String × UniqueTransaction))
    (st : SummedRefunds) (refund : RefundSnapshot) : SummedRefunds :=
  match refund.total toUpperCase with
  | none => { st with currencyMismatch := true }
  | some refundTotal =>
      if refundTotal.currency ≠ orderTotal.currency then { st with currencyMismatch := true }
      else
        let found := localTransactions unique refund.transactions
        let positive := found.filter fun p => decide p.2.IsSuccessfulRefund
        let successfulVoidCount := found.countP fun p => decide p.2.IsZeroVoid
        let amount := sumDecimals (positive.map fun p => p.2.money.decimal)
        let summed := { st with
          globalSuccessfulRefunds := (positive.map entryOf).foldl setEntry st.globalSuccessfulRefunds
          successfulVoidTransactionCount := st.successfulVoidTransactionCount +
            successfulVoidCount }
        if amount ≠ refundTotal.decimal then { summed with aggregateMismatch := true }
        else
          { summed with
            perRefundResults := st.perRefundResults ++
              [itemResult refund refundTotal.currency amount positive successfulVoidCount] }

def sumRefunds (orderTotal : ParsedMoney) (unique : List (String × UniqueTransaction))
    (refunds : List RefundSnapshot) : SummedRefunds :=
  refunds.foldl (sumRefund toUpperCase orderTotal unique) .empty

/-- The sum of the refunds' totals.  A total that is malformed starts it over. -/
def refundAggregate (refunds : List RefundSnapshot) : Option ℚ :=
  refunds.foldl
    (fun sum refund => (refund.total toUpperCase).map fun total => plus (sum.getD 0) total.decimal)
    (some 0)

/-! ## The classification -/

/-- The decision on the sums, once the transactions are in order. -/
def classifyRefunds (collection : RefundCollection) (common : EvidenceCommon)
    (orderTotal : ParsedMoney) (unique : List (String × UniqueTransaction)) :
    RefundMonetaryEvidence :=
  let summed := sumRefunds toUpperCase orderTotal unique collection.refunds
  let aggregate := refundAggregate toUpperCase collection.refunds
  let monetaryRefundAmount := sumDecimals (summed.globalSuccessfulRefunds.map Prod.snd)
  let common := { common with
    successfulRefundTransactionCount := summed.globalSuccessfulRefunds.length
    successfulVoidTransactionCount := summed.successfulVoidTransactionCount
    refundAggregateAmount := aggregate }
  if summed.currencyMismatch then
    { safeResult common .unsupportedOrAmbiguous .canonicalRefundCurrencyMismatch
        ["Canonical Shopify refund currencies do not agree."] summed.perRefundResults with
      currencyMismatch := true }
  else if summed.aggregateMismatch ∨ aggregate ≠ some orderTotal.decimal ∨
      monetaryRefundAmount ≠ orderTotal.decimal then
    { safeResult common .unsupportedOrAmbiguous .canonicalRefundAmountMismatch
        ["Canonical Shopify refund transaction totals do not agree with refund aggregates."]
        summed.perRefundResults with
      aggregateMismatch := true }
  else match summed.perRefundResults.find? fun r =>
      decide (r.classification = .unsupportedOrAmbiguous) with
    | some item =>
        safeResult common .unsupportedOrAmbiguous item.reasonCode item.sanitizedWarnings
          summed.perRefundResults
    | none =>
        { safeResult common (if 0 < monetaryRefundAmount then .monetaryRefund else .zeroValueVoid)
            (if 0 < monetaryRefundAmount then .monetaryRefundVerified
              else .zeroValueVoidNotMonetaryRefund) [] summed.perRefundResults with
          monetaryRefundAmount := monetaryRefundAmount
          currency := some orderTotal.currency }

/-- The decision on the transactions. -/
def classifyTransactions (collection : RefundCollection) (common : EvidenceCommon)
    (orderTotal : ParsedMoney) : RefundMonetaryEvidence :=
  let collected := collectTransactions toUpperCase orderTotal collection.refunds
  let common := { common with
    uniqueTransactionCount := collected.uniqueTransactions.length
    duplicateTransactionCount := collected.duplicateTransactionCount
    nonFinalTransactionCount := collected.nonFinalTransactionCount }
  if collected.duplicateConflict then
    safeResult common .unsupportedOrAmbiguous .duplicateRefundTransactionConflict
      ["Duplicate Shopify refund transaction evidence is contradictory."] []
  else if collected.malformedTransaction ∨ collected.positiveVoid then
    safeResult common .unsupportedOrAmbiguous .refundTransactionAmbiguous
      ["Canonical Shopify refund transaction evidence is missing, malformed, or contradictory."] []
  else if collected.currencyMismatch then
    { safeResult common .unsupportedOrAmbiguous .canonicalRefundCurrencyMismatch
        ["Canonical Shopify refund currencies do not agree."] [] with
      currencyMismatch := true }
  else if 0 < collected.nonFinalTransactionCount then
    safeResult common .nonFinalRefund .nonFinalRefundTransaction
      ["Canonical Shopify refund contains non-final transaction evidence."] []
  else if collected.uniqueTransactions = [] then
    safeResult common .unsupportedOrAmbiguous .monetaryRefundTransactionMissing
      ["Canonical Shopify refund has no transaction evidence."] []
  else classifyRefunds toUpperCase collection common orderTotal collected.uniqueTransactions

def RefundCollection.orderTotal (collection : RefundCollection) : Option ParsedMoney :=
  parseMoney toUpperCase collection.orderTotalRefundedAmount
    collection.orderTotalRefundedCurrencyCode

def classifyCanonicalRefundMonetaryEvidence (collection : RefundCollection) :
    RefundMonetaryEvidence :=
  let common : EvidenceCommon :=
    { totalTransactionCount := (collection.refunds.map (·.transactions.length)).sum
      uniqueTransactionCount := 0
      successfulRefundTransactionCount := 0
      successfulVoidTransactionCount := 0
      nonFinalTransactionCount := 0
      duplicateTransactionCount := 0
      refundAggregateAmount := none
      orderAggregateAmount := none
      transactionPaginationComplete := collection.refunds.all (·.transactionPaginationComplete)
      lineItemPaginationComplete := collection.refunds.all (·.lineItemPaginationComplete)
      refundsListComplete := collection.refundsListComplete }
  if collection.refundsListComplete = false then
    safeResult common .unsupportedOrAmbiguous .canonicalRefundsListIncomplete
      ["Canonical Shopify refund-list evidence is incomplete."] []
  else if common.transactionPaginationComplete = false then
    safeResult common .unsupportedOrAmbiguous .canonicalRefundTransactionsIncomplete
      ["Canonical Shopify refund transaction evidence is incomplete."] []
  else if common.lineItemPaginationComplete = false then
    safeResult common .unsupportedOrAmbiguous .canonicalRefundLineItemsIncomplete
      ["Canonical Shopify refund line-item evidence is incomplete."] []
  else match collection.orderTotal toUpperCase with
    | none =>
        safeResult common .unsupportedOrAmbiguous .refundTransactionAmbiguous
          ["Canonical Shopify order refund total is missing or malformed."] []
    | some orderTotal =>
        classifyTransactions toUpperCase collection
          { common with orderAggregateAmount := some orderTotal.decimal } orderTotal

/-! ## The customer's refund -/

inductive CustomerRefundCompletionStatus
  | noVerifiedMonetaryRefund | verifiedPartial | verifiedFull | unresolved
  deriving DecidableEq

inductive CompletionReasonCode
  | noVerifiedMonetaryRefund
  | monetaryEvidence (reasonCode : RefundMonetaryEvidenceReasonCode)
  | canonicalCustomerMoneyMissingOrCurrencyMismatch
  | canonicalCustomerMoneyConflict
  | canonicalFullCustomerRefundVerified
  | canonicalPartialCustomerRefundVerified
  | canonicalCustomerRefundStateConflict
  deriving DecidableEq

structure CustomerRefundCompletion where
  status : CustomerRefundCompletionStatus
  reasonCode : CompletionReasonCode
  displayFinancialStatus : Option String
  currency : Option String
  totalReceivedAmount : Option String
  totalRefundedAmount : Option String
  netPaymentAmount : Option String
  totalOutstandingAmount : Option String
  totalRefundedShippingAmount : Option String
  deriving DecidableEq

def requiresRefundMonetaryEvidenceClassification (collection : RefundCollection) : Bool :=
  decide (collection.refunds ≠ []) ||
    match collection.orderTotal toUpperCase with
    | none => true
    | some orderTotal => decide (orderTotal.decimal ≠ 0)

/-- The status and the reason, from the four amounts of the order. -/
def completionOfMoney (displayFinancialStatus : Option String)
    (received refunded net outstanding : ParsedMoney) :
    CustomerRefundCompletionStatus × CompletionReasonCode :=
  if minus received.decimal refunded.decimal ≠ net.decimal ∨ received.isNegative ∨
      refunded.isNegative ∨ outstanding.isNegative then
    (.unresolved, .canonicalCustomerMoneyConflict)
  else if displayFinancialStatus = some "REFUNDED" ∧ 0 < refunded.decimal ∧
      refunded.decimal = received.decimal ∧ net.decimal = 0 ∧ outstanding.decimal = 0 then
    (.verifiedFull, .canonicalFullCustomerRefundVerified)
  else if displayFinancialStatus = some "PARTIALLY_REFUNDED" ∧ 0 < refunded.decimal ∧
      refunded.decimal < received.decimal ∧ 0 < net.decimal then
    (.verifiedPartial, .canonicalPartialCustomerRefundVerified)
  else (.unresolved, .canonicalCustomerRefundStateConflict)

def classifyCustomerRefundCompletion (collection : RefundCollection)
    (evidence : RefundMonetaryEvidence) : CustomerRefundCompletion :=
  let displayFinancialStatus :=
    collection.displayFinancialStatus.map fun s => toUpperCase (trim s)
  let completion (result : CustomerRefundCompletionStatus × CompletionReasonCode) :
      CustomerRefundCompletion :=
    { status := result.1
      reasonCode := result.2
      displayFinancialStatus
      currency := evidence.currency
      totalReceivedAmount := collection.orderTotalReceivedAmount
      totalRefundedAmount := collection.orderTotalRefundedAmount
      netPaymentAmount := collection.orderNetPaymentAmount
      totalOutstandingAmount := collection.orderTotalOutstandingAmount
      totalRefundedShippingAmount := collection.orderTotalRefundedShippingAmount }
  if requiresRefundMonetaryEvidenceClassification toUpperCase collection = false then
    completion (.noVerifiedMonetaryRefund, .noVerifiedMonetaryRefund)
  else if evidence.classification = .zeroValueVoid then
    completion (.noVerifiedMonetaryRefund, .noVerifiedMonetaryRefund)
  else if evidence.classification ≠ .monetaryRefund then
    completion (.unresolved, .monetaryEvidence evidence.reasonCode)
  else match
      parseMoney toUpperCase collection.orderTotalReceivedAmount
        collection.orderTotalReceivedCurrencyCode,
      collection.orderTotal toUpperCase,
      parseMoney toUpperCase collection.orderNetPaymentAmount
        collection.orderNetPaymentCurrencyCode,
      parseMoney toUpperCase collection.orderTotalOutstandingAmount
        collection.orderTotalOutstandingCurrencyCode with
    | some received, some refunded, some net, some outstanding =>
        if refunded.currency ≠ received.currency ∨ net.currency ≠ received.currency ∨
            outstanding.currency ≠ received.currency ∨
            evidence.currency ≠ some received.currency then
          completion (.unresolved, .canonicalCustomerMoneyMissingOrCurrencyMismatch)
        else completion (completionOfMoney displayFinancialStatus received refunded net outstanding)
    | _, _, _, _ =>
        completion (.unresolved, .canonicalCustomerMoneyMissingOrCurrencyMismatch)

end VendorDashboard.Shopify

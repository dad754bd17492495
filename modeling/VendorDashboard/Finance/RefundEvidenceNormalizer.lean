import VendorDashboard.Framework.StableJson
import VendorDashboard.Framework.Transaction

/-!
# Normalized refund evidence

`normalizeRefundEvidence` turns the evidence of one refund into a JSON value in which amounts are
plain decimals and lists are sorted by the texts of their items, and takes the hash of its stable
text as a fingerprint.  `verifyNormalizedRefundEvidenceHash` compares a stored value with a
fingerprint.  The hash and upper-casing are parameters.
-/

namespace VendorDashboard.RefundEvidence

open Decimal StableJson Text Transaction

def REFUND_EVIDENCE_NORMALIZATION_VERSION : ℚ := 1

def REFUND_EVIDENCE_HASH_ALGORITHM : String := "SHA-256"

/-! ## The input -/

structure ResolvedTransaction where
  transactionGid : String
  kind : String
  status : String
  amount : String
  currency : String
  deriving DecidableEq

structure ResolvedRefundLine where
  sourceLineItemId : String
  quantity : ℚ
  subtotalAmount : String
  currency : Option String
  deriving DecidableEq

structure ResolvedRefundEvidenceInput where
  sourceShopifyRefundId : String
  sourceShopifyOrderId : String
  vendorAllocationId : String
  monetaryClassification : String
  refundTotalAmount : String
  currency : String
  transactions : List ResolvedTransaction
  refundLines : List ResolvedRefundLine
  historicalEconomicVendorId : String
  historicalSaleFinanceLedgerEntryId : String
  supersededSaleLedgerIds : List String

/-! ## Checks -/

def requiredIdentity (value field : String) : Except String String :=
  if trim value = "" ∨ value ≠ trim value then
    .error ("Invalid " ++ field ++ ": expected a non-empty normalized identity.")
  else .ok value

variable (toUpperCase : String → String)

def requiredCurrency (value field : String) : Except String String :=
  if trim value = "" ∨ value ≠ trim value ∨ value ≠ toUpperCase value then
    .error ("Invalid " ++ field ++ ": expected a canonical currency.")
  else .ok value

/-- The plain text of an amount. -/
def canonicalMoney (value field : String) (allowZero : Bool) : Except String String :=
  match scanDecimal (trim value).toList with
  | none => .error ("Invalid " ++ field ++ ": expected an exact decimal string.")
  | some text =>
      if startsWith text.plainText "-" = true ∨ allowZero = false ∧ text.plainText = "0" then
        .error ("Invalid " ++ field ++ ": expected " ++
          (if allowZero then "non-negative" else "positive") ++ " money.")
      else .ok text.plainText

/-- The path of an item of a list. -/
def itemField (list : String) (index : ℕ) (field : String) : String :=
  list ++ "[" ++ toString index ++ "]" ++ field

/-! ## Normalization -/

structure NormalizedTransaction where
  transactionGid : String
  kind : String
  status : String
  amount : String
  currency : String
  deriving DecidableEq

def NormalizedTransaction.json (t : NormalizedTransaction) : Value :=
  .object [("transactionGid", .string t.transactionGid), ("kind", .string t.kind),
    ("status", .string t.status), ("amount", .string t.amount), ("currency", .string t.currency)]

structure NormalizedRefundLine where
  sourceLineItemId : String
  quantity : ℚ
  subtotalAmount : String
  currency : Option String
  deriving DecidableEq

def NormalizedRefundLine.json (l : NormalizedRefundLine) : Value :=
  .object [("sourceLineItemId", .string l.sourceLineItemId), ("quantity", .number l.quantity),
    ("subtotalAmount", .string l.subtotalAmount),
    ("currency", (l.currency.map Value.string).getD .null)]

def normalizeTransaction (currency : String) (index : ℕ) (transaction : ResolvedTransaction) :
    Except String NormalizedTransaction := do
  let field := itemField "transactions" index
  require (transaction.kind = "REFUND" ∧ transaction.status = "SUCCESS")
    ("Invalid " ++ field "" ++ ": expected selected REFUND/SUCCESS evidence.")
  let transactionCurrency ← requiredCurrency toUpperCase transaction.currency (field ".currency")
  require (transactionCurrency = currency)
    ("Invalid " ++ field ".currency" ++ ": currency mismatch.")
  let transactionGid ← requiredIdentity transaction.transactionGid (field ".transactionGid")
  let amount ← canonicalMoney transaction.amount (field ".amount") false
  pure ⟨transactionGid, transaction.kind, transaction.status, amount, transactionCurrency⟩

def normalizeRefundLine (currency : String) (index : ℕ) (line : ResolvedRefundLine) :
    Except String NormalizedRefundLine := do
  let field := itemField "refundLines" index
  require (IsSafeInteger line.quantity ∧ 0 < line.quantity)
    ("Invalid " ++ field ".quantity" ++ ": expected a positive safe integer.")
  let lineCurrency ← match line.currency with
    | none => pure none
    | some value => (requiredCurrency toUpperCase value (field ".currency")).map some
  require (∀ value ∈ lineCurrency, value = currency)
    ("Invalid " ++ field ".currency" ++ ": currency mismatch.")
  let sourceLineItemId ← requiredIdentity line.sourceLineItemId (field ".sourceLineItemId")
  let subtotalAmount ← canonicalMoney line.subtotalAmount (field ".subtotalAmount") true
  pure ⟨sourceLineItemId, line.quantity, subtotalAmount, lineCurrency⟩

/-- The text by which the items of a list are sorted. -/
def textOf (v : Value) : String := (stableJson v).getD ""

structure NormalizedRefundEvidence where
  sourceShopifyRefundId : String
  sourceShopifyOrderId : String
  vendorAllocationId : String
  monetaryClassification : String
  refundTotalAmount : String
  currency : String
  historicalEconomicVendorId : String
  historicalSaleFinanceLedgerEntryId : String
  normalizedTransactionsJson : List NormalizedTransaction
  normalizedRefundLinesJson : List NormalizedRefundLine
  supersededSaleLedgerIdsJson : List String
  evidenceHash : String
  hashAlgorithm : String
  deriving DecidableEq

namespace NormalizedRefundEvidence

variable (e : NormalizedRefundEvidence)

def normalizedOwnershipJson : Value :=
  .object [("historicalEconomicVendorId", .string e.historicalEconomicVendorId),
    ("historicalSaleFinanceLedgerEntryId", .string e.historicalSaleFinanceLedgerEntryId),
    ("supersededSaleLedgerIds", .array (e.supersededSaleLedgerIdsJson.map .string))]

/-- The evidence that is hashed.  The order is kept beside it. -/
def normalizedEvidenceJson : Value :=
  .object [("normalizationVersion", .number REFUND_EVIDENCE_NORMALIZATION_VERSION),
    ("sourceShopifyRefundId", .string e.sourceShopifyRefundId),
    ("vendorAllocationId", .string e.vendorAllocationId),
    ("monetaryClassification", .string e.monetaryClassification),
    ("refundTotalAmount", .string e.refundTotalAmount),
    ("currency", .string e.currency),
    ("transactions", .array (e.normalizedTransactionsJson.map (·.json))),
    ("refundLines", .array (e.normalizedRefundLinesJson.map (·.json))),
    ("ownership", e.normalizedOwnershipJson)]

end NormalizedRefundEvidence

variable (sha256 : String → String)

def normalizeRefundEvidence (input : ResolvedRefundEvidenceInput) :
    Except String NormalizedRefundEvidence := do
  let sourceShopifyRefundId ← requiredIdentity input.sourceShopifyRefundId "sourceShopifyRefundId"
  let sourceShopifyOrderId ← requiredIdentity input.sourceShopifyOrderId "sourceShopifyOrderId"
  let vendorAllocationId ← requiredIdentity input.vendorAllocationId "vendorAllocationId"
  let historicalEconomicVendorId ←
    requiredIdentity input.historicalEconomicVendorId "historicalEconomicVendorId"
  let historicalSaleFinanceLedgerEntryId ← requiredIdentity input.historicalSaleFinanceLedgerEntryId
    "historicalSaleFinanceLedgerEntryId"
  require (input.monetaryClassification = "MONETARY_REFUND")
    "Invalid monetaryClassification: expected verified MONETARY_REFUND."
  let currency ← requiredCurrency toUpperCase input.currency "currency"
  let refundTotalAmount ← canonicalMoney input.refundTotalAmount "refundTotalAmount" false
  require (input.transactions ≠ [])
    "Invalid transactions: expected selected successful monetary REFUND evidence."
  let transactions ← input.transactions.zipIdx.mapM fun p =>
    normalizeTransaction toUpperCase currency p.2 p.1
  let refundLines ← input.refundLines.zipIdx.mapM fun p =>
    normalizeRefundLine toUpperCase currency p.2 p.1
  let ids ← input.supersededSaleLedgerIds.zipIdx.mapM fun p =>
    requiredIdentity p.1 (itemField "supersededSaleLedgerIds" p.2 "")
  let evidence : NormalizedRefundEvidence :=
    { sourceShopifyRefundId
      sourceShopifyOrderId
      vendorAllocationId
      monetaryClassification := input.monetaryClassification
      refundTotalAmount
      currency
      historicalEconomicVendorId
      historicalSaleFinanceLedgerEntryId
      normalizedTransactionsJson := sortBy (fun t => textOf t.json) transactions
      normalizedRefundLinesJson := sortBy (fun l => textOf l.json) refundLines
      supersededSaleLedgerIdsJson := sortBy id ids
      evidenceHash := ""
      hashAlgorithm := REFUND_EVIDENCE_HASH_ALGORITHM }
  let text ← getOrThrow (stableJson evidence.normalizedEvidenceJson)
    "Invalid refund evidence: non-JSON value."
  pure { evidence with evidenceHash := sha256 text }

/-! ## Verification -/

def verifyNormalizedRefundEvidenceHash (normalizedEvidenceJson : Value)
    (evidenceHash hashAlgorithm : String) : Except String Bool :=
  if hashAlgorithm ≠ REFUND_EVIDENCE_HASH_ALGORITHM then .ok false
  else (getOrThrow (stableJson normalizedEvidenceJson)
    "Invalid refund evidence: non-JSON value.").map fun text => decide (sha256 text = evidenceHash)

end VendorDashboard.RefundEvidence

import VendorDashboard.Finance.Eligibility
import VendorDashboard.Finance.ExecutionSnapshots
import VendorDashboard.Finance.SalesInvoiceSync
import VendorDashboard.Finance.SettlementPreview
import VendorDashboard.Framework.FixedPoint

/-!
# The request for a commission invoice

`buildSettlementLogoCommissionInvoiceRequestSnapshot` turns an approved settlement into the request
for the invoice of its commission: one detail, whose price is the settlement's commission and whose
tax rate is the one commission VAT rate that the strict guard has found on the lines.

Amounts and rates go through texts: the columns are written as texts into the snapshots of the lines
(`saleLineSnapshot`, `refundLineSnapshot`), the price and the rate are formatted, and the preview
parses them again.  `Number` of a text is the parameter `toNumber`, and lower-casing by the rules of
Turkish is `toTurkishLowerCase`.
-/

namespace VendorDashboard.Finance.CommissionInvoiceRequest

open Decimal Text Finance.ExecutionSnapshots Finance.SalesInvoiceSync

/-! ## Numbers as text -/

/-- Four decimals at most, and no zeros at the end. -/
def formatDecimal (value : ℚ) : String :=
  let n := round (value * 10000)
  String.ofList ((if n < 0 then ['-'] else []) ++ fixedText 4 n.natAbs)

def minorToMajor (value : ℤ) : ℚ := value / 100

def parseLogoDecimalNumber (value field : String) (allowZero : Bool) (max : Option ℚ) :
    Except String ℚ :=
  match readFixed 4 (trim value).toList with
  | none => .error s!"{field} must be a decimal number."
  | some parsed =>
      let refused := if allowZero then decide (parsed < 0) else decide (parsed ≤ 0)
      let kind := if allowZero then "a non-negative" else "a positive"
      if refused = true then .error s!"{field} must be {kind} decimal number."
      else if max.any fun bound => decide (bound < parsed) then
        .error s!"{field} must be at most {formatDecimal (max.getD 0)}."
      else .ok parsed

/-! ## The snapshots of the lines -/

/-- `String(value)` of a decimal column. -/
def decimalText (value : Option ℚ) : Json := (value.map fun q => .string (formatDecimal q)).getD .null

def nullableText (value : Option String) : Json := (value.map Json.string).getD .null

def shippingModeText : ShippingMode → String
  | .disabled => "DISABLED"
  | .fixed => "FIXED"
  | .externalProvider => "EXTERNAL_PROVIDER"

/-- The policy fields of the snapshot of a sale line. -/
def saleLineSnapshot (entry : FinanceLedgerEntry)
    (shippingCostSource shippingCostProvider : Option String) : Json :=
  .object [("commissionPercentSnapshot", decimalText entry.commissionPercentSnapshot),
    ("commissionVatPercentSnapshot", decimalText entry.commissionVatPercentSnapshot),
    ("deductShippingEnabledSnapshot",
      (entry.deductShippingEnabledSnapshot.map Json.bool).getD .null),
    ("shippingModeSnapshot", nullableText (entry.shippingModeSnapshot.map shippingModeText)),
    ("fixedShippingFeeSnapshot", decimalText entry.fixedShippingFeeSnapshot),
    ("shippingCostSnapshot", decimalText entry.shippingCostSnapshot),
    ("shippingVatAmountSnapshot", decimalText entry.shippingVatAmountSnapshot),
    ("shippingCostSourceSnapshot", nullableText shippingCostSource),
    ("shippingCostProviderSnapshot", nullableText shippingCostProvider)]

/-- The policy fields of the snapshot of a refund line. -/
def refundLineSnapshot (row : LedgerRow) : Json :=
  let snapshots := resolveRefundCommissionSnapshot row
  .object [("commissionPercentSnapshot", decimalText snapshots.1),
    ("commissionVatPercentSnapshot", decimalText snapshots.2)]

/-! ## What the provider is asked for -/

inductive RequiredBillingSnapshotField
  | legalCompanyName | taxNumber | taxOffice | billingAddress | billingCity | billingDistrict
  | billingEmail | legalEntityType
  deriving DecidableEq

def RequiredBillingSnapshotField.name : RequiredBillingSnapshotField → String
  | .legalCompanyName => "legalCompanyName"
  | .taxNumber => "taxNumber"
  | .taxOffice => "taxOffice"
  | .billingAddress => "billingAddress"
  | .billingCity => "billingCity"
  | .billingDistrict => "billingDistrict"
  | .billingEmail => "billingEmail"
  | .legalEntityType => "legalEntityType"

def REQUIRED_BILLING_SNAPSHOT_FIELDS : List RequiredBillingSnapshotField :=
  [.legalCompanyName, .taxNumber, .taxOffice, .billingAddress, .billingCity, .billingDistrict,
    .billingEmail, .legalEntityType]

structure SettlementBillingSnapshot where
  required : RequiredBillingSnapshotField → Option String
  logoIsbasiCustomerCode : Option String
  logoIsbasiCustomerId : Option String

def isBlank (value : Option String) : Bool := value.all fun text => decide (trim text = "")

def getMissingBillingFields (snapshot : SettlementBillingSnapshot) :
    List RequiredBillingSnapshotField :=
  REQUIRED_BILLING_SNAPSHOT_FIELDS.filter fun field => isBlank (snapshot.required field)

/-- `replace(/\s+/g, ' ')`. -/
def collapseSpaces : List Char → List Char
  | [] => []
  | c :: cs =>
      if isSpace c then
        if cs.head?.any isSpace then collapseSpaces cs else ' ' :: collapseSpaces cs
      else c :: collapseSpaces cs

def PERSON_LEGAL_ENTITY_TYPES : List String :=
  ["person", "personal", "individual", "bireysel", "şahıs", "sahis", "şahıs şirketi",
    "sahis sirketi", "sole_proprietorship", "personal_company", "sahis_sirketi"]

def COMPANY_LEGAL_ENTITY_TYPES : List String :=
  ["company", "corporate", "kurumsal", "limited", "limited şirket", "limited sirket",
    "limited_company", "limited_sirket", "ltd", "ltd. şti.", "ltd. sti.", "joint_stock_company",
    "corporation", "anonim", "anonym", "anonim şirket", "anonim sirket", "anonim_sirket", "a.ş.",
    "a.s."]

def resolveLegalEntityIsPerson (toTurkishLowerCase : String → String) (value : Option String) :
    Except String Bool :=
  let normalized := value.map fun text =>
    String.ofList (collapseSpaces (toTurkishLowerCase (trim text)).toList)
  match normalized with
  | none => .error "legalEntityType is required for Logo İşbaşı invoice payload."
  | some text =>
      if text = "" then .error "legalEntityType is required for Logo İşbaşı invoice payload."
      else if text ∈ PERSON_LEGAL_ENTITY_TYPES then .ok true
      else if text ∈ COMPANY_LEGAL_ENTITY_TYPES then .ok false
      else
        .error ("Unsupported legalEntityType for Logo İşbaşı invoice payload: " ++
          value.getD "" ++ ".")

/-- A number of the payload. -/
def payloadNumber (value : ℚ) : Json :=
  let text := formatDecimal value
  .number (if h : trim text = text ∧ text ≠ "" then some ⟨text, h⟩ else none)

/-- The one detail of the invoice. -/
def invoiceDetail (price taxRate : ℚ) : Json :=
  .object [("quantity", payloadNumber 1), ("taxRate", payloadNumber taxRate),
    ("price", payloadNumber price)]

def invoicePayload (isPerson : Bool) (price taxRate : ℚ) : Json :=
  .object [("customer", .object [("isPerson", .bool isPerson)]),
    ("salesInvoiceDetails", .array [invoiceDetail price taxRate])]

def buildLogoIsbasiCommissionInvoicePreview (toTurkishLowerCase : String → String)
    (legalEntityType : Option String) (commissionAmount vatRate : String) : Except String Json := do
  let isPerson ← resolveLegalEntityIsPerson toTurkishLowerCase legalEntityType
  let price ← parseLogoDecimalNumber commissionAmount "commissionAmount" false none
  let taxRate ← parseLogoDecimalNumber vatRate "vatRate" true (some 100)
  return invoicePayload isPerson price taxRate

/-! ## The request -/

structure RequestApproval where
  guarded : GuardApproval
  currency : String
  commissionMinor : ℤ
  commissionVatMinor : ℤ
  billing : Option SettlementBillingSnapshot

inductive RequestSnapshotResult
  | blocked (blockers : List String)
  | ready (requestSnapshotJson : Json)

def SETTLEMENT_BILLING_SNAPSHOT_MISSING_BLOCKER : String :=
  "Settlement billing snapshot is missing. Historical invoice execution cannot be guaranteed."

def billingBlockers : Option SettlementBillingSnapshot → List String
  | none => [SETTLEMENT_BILLING_SNAPSHOT_MISSING_BLOCKER]
  | some snapshot =>
      let missing := getMissingBillingFields snapshot
      (if missing.isEmpty then []
      else
        ["Settlement billing snapshot is missing required fields: " ++
          ", ".intercalate (missing.map (·.name)) ++ "."]) ++
      (if isBlank snapshot.logoIsbasiCustomerCode then
        ["Vendor must have logoIsbasiCustomerCode before Logo invoice creation."]
      else []) ++
      if isBlank snapshot.logoIsbasiCustomerId then
        ["Vendor must have logoIsbasiCustomerId before Logo invoice creation."]
      else []

def requestBlockers (approval : RequestApproval) (guard : SettlementExecutionSnapshotGuardDto) :
    List String :=
  (if approval.guarded.status = .approved then []
  else
    ["SettlementApproval status must be APPROVED before Logo commission invoice request snapshot. " ++
      s!"Current status: {SettlementApprovalStatus.text approval.guarded.status}."]) ++
  billingBlockers approval.billing ++
  (if approval.currency = "TRY" then []
  else
    ["SettlementApproval currency must be TRY for Logo commission invoice request snapshot. " ++
      s!"Current currency: {approval.currency}."]) ++
  (if approval.commissionMinor ≤ 0 then
    ["Settlement commission amount is zero; accountant confirmation is required before creating " ++
      "a Logo invoice."]
  else []) ++
  guard.blockers

section Request

variable (toNumber : String → Option ℚ) (toTurkishLowerCase : String → String)

def buildSettlementLogoCommissionInvoiceRequestSnapshot :
    Option RequestApproval → Except String RequestSnapshotResult
  | none => .ok (.blocked ["SettlementApproval must exist."])
  | some approval =>
      let guard := buildStrictExecutionSnapshotGuard toNumber (some approval.guarded)
      let blockers := requestBlockers approval guard
      if blockers ≠ [] then .ok (.blocked blockers.eraseDups)
      else
        match approval.billing, guard.detectedCommissionVatRates with
        | some billing, [invoiceTaxRate] => do
            let payload ← buildLogoIsbasiCommissionInvoicePreview toTurkishLowerCase
              (billing.required .legalEntityType)
              (formatDecimal (minorToMajor approval.commissionMinor))
              (formatDecimal invoiceTaxRate)
            return .ready (.object [("logoPayload", payload)])
        | _, _ => .ok (.blocked blockers.eraseDups)

/-! ## The total that a request stands for -/

def detailTotal (raw : Json) : Option ℚ :=
  if raw.isRecord then
    let quantity := ((raw.field? "quantity").bind (readNumber toNumber)).getD 1
    let taxRate := ((raw.field? "taxRate").bind (readNumber toNumber)).getD 0
    ((raw.field? "price").bind (readNumber toNumber)).map fun price =>
      price * quantity * (1 + taxRate / 100)
  else none

/-- The invoice total that the details of a stored request add up to, in minor units. -/
def getExpectedInvoiceTotalMinor (requestSnapshotJson : Json) : Option ℤ :=
  let details := (requestSnapshotJson.field? "logoPayload").bind (·.field? "salesInvoiceDetails")
  (details.bind arrayItems).bind fun details =>
    (details.mapM (detailTotal toNumber)).map fun totals => round (totals.sum * 100)

end Request

end VendorDashboard.Finance.CommissionInvoiceRequest

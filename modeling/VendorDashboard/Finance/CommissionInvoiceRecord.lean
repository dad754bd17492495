import VendorDashboard.Framework.Json
import VendorDashboard.Framework.Transaction
import VendorDashboard.Finance.Schema

/-!
# The commission invoice of a settlement

The record of the invoice that the provider is asked to create for a settlement's commission.
Every function that changes its status (`markCreated`, `markFailed`, `markUnknown`,
`resolveUnknownAsCreated`, `resolveUnknownAsFailed`, and `incrementRetry`, which keeps it) reads the
record, checks its status and then updates it, whatever it has become meanwhile.  They differ in the
statuses they accept and in the columns they write (`RecordWrite`).

Here are also the checks that an execution makes of the record and of its environment, and what it
reads in the answers of the provider.  The snapshots of answers and of evidence are left out.
-/

namespace VendorDashboard.Finance

open Text Transaction

/-! ## The record -/

/-- The columns that identify the invoice at the provider. -/
structure ProviderIdentifiers where
  providerInvoiceId : Option String
  providerUuid : Option String
  providerEttn : Option String
  invoiceNo : Option String
  deriving DecidableEq

def ProviderIdentifiers.none : ProviderIdentifiers := ⟨.none, .none, .none, .none⟩

/-- A `SettlementCommissionInvoice` with what its functions read and write of it. -/
structure CommissionInvoiceRecord where
  id : Id
  settlementApprovalId : Id
  vendorId : String
  status : InvoiceStatus
  identifiers : ProviderIdentifiers
  requestSnapshotJson : Json
  documentStatus : Option String
  failureCode : Option String
  failureMessage : Option String
  failedAt : Option Instant
  unknownReason : Option String
  unknownAt : Option Instant
  reconciliationStatus : Option String
  reconciledAt : Option Instant
  reconciledBy : Option String
  retryCount : ℕ
  lastRetriedAt : Option Instant
  createdAt : Instant

/-- The columns of the record that the finance transactions read. -/
def CommissionInvoiceRecord.toInvoice (r : CommissionInvoiceRecord) : SettlementCommissionInvoice :=
  ⟨r.id, r.settlementApprovalId, r.status, r.createdAt⟩

def InvoiceStatus.text : InvoiceStatus → String
  | .pending => "PENDING"
  | .created => "CREATED"
  | .failed => "FAILED"
  | .cancelled => "CANCELLED"
  | .unknown => "UNKNOWN"

/-- The record that `insertPendingRecord` creates. -/
def pendingRecord (id settlementApprovalId : Id) (vendorId : String) (requestSnapshotJson : Json)
    (now : Instant) : CommissionInvoiceRecord where
  id
  settlementApprovalId
  vendorId
  status := .pending
  identifiers := .none
  requestSnapshotJson
  documentStatus := none
  failureCode := none
  failureMessage := none
  failedAt := none
  unknownReason := none
  unknownAt := none
  reconciliationStatus := none
  reconciledAt := none
  reconciledBy := none
  retryCount := 0
  lastRetriedAt := none
  createdAt := now

/-! ## The changes of its status -/

inductive RecordWrite
  | markCreated (identifiers : ProviderIdentifiers)
  | markFailed (failureCode failureMessage : Option String)
  | markUnknown (unknownReason : String)
  | resolveUnknownAsCreated (identifiers : ProviderIdentifiers) (reconciledBy : Option String)
  | resolveUnknownAsFailed (failureCode failureMessage reconciledBy : Option String)
  | incrementRetry
  deriving DecidableEq

namespace RecordWrite

def transitionName : RecordWrite → String
  | .markCreated _ => "markCreated"
  | .markFailed .. => "markFailed"
  | .markUnknown _ => "markUnknown"
  | .resolveUnknownAsCreated .. => "resolveUnknownAsCreated"
  | .resolveUnknownAsFailed .. => "resolveUnknownAsFailed"
  | .incrementRetry => "incrementRetry"

/-- The statuses in which the record may be. -/
def allowed : RecordWrite → List InvoiceStatus
  | .markCreated _ | .markFailed .. | .markUnknown _ => [.pending, .failed]
  | .resolveUnknownAsCreated .. | .resolveUnknownAsFailed .. => [.unknown]
  | .incrementRetry => [.failed]

/-- The columns that are written. -/
def apply (write : RecordWrite) (now : Instant) (r : CommissionInvoiceRecord) :
    CommissionInvoiceRecord :=
  match write with
  | .markCreated identifiers => { r with status := .created, identifiers }
  | .markFailed failureCode failureMessage =>
      { r with status := .failed, failureCode, failureMessage, failedAt := some now }
  | .markUnknown unknownReason =>
      { r with
        status := .unknown
        unknownReason := some (trim unknownReason)
        unknownAt := some now }
  | .resolveUnknownAsCreated identifiers reconciledBy =>
      { r with
        status := .created
        identifiers
        reconciliationStatus := some "resolved_created"
        reconciledAt := some now
        reconciledBy }
  | .resolveUnknownAsFailed failureCode failureMessage reconciledBy =>
      { r with
        status := .failed
        failureCode
        failureMessage
        failedAt := some now
        reconciliationStatus := some "resolved_failed"
        reconciledAt := some now
        reconciledBy }
  | .incrementRetry => { r with retryCount := r.retryCount + 1, lastRetriedAt := some now }

/-- The check of the record that was read. -/
def assertStatus (write : RecordWrite) (r : CommissionInvoiceRecord) : Except String Unit :=
  if write = .incrementRetry ∧ r.status = .unknown then
    .error "UNKNOWN execution must be reconciled before retry."
  else require (r.status ∈ write.allowed)
    (write.transitionName ++ " is not allowed for SettlementCommissionInvoice " ++ toString r.id ++
      " while status is " ++ r.status.text ++ ".")

lemma assertStatus_ok {write : RecordWrite} {r : CommissionInvoiceRecord} {u : Unit}
    (h : write.assertStatus r = .ok u) : r.status ∈ write.allowed := by
  unfold assertStatus at h
  split at h
  · cases h
  · exact require_eq_ok.mp h

@[simp] lemma apply_id (write : RecordWrite) (now : Instant) (r : CommissionInvoiceRecord) :
    (write.apply now r).id = r.id := by
  cases write <;> rfl

@[simp] lemma apply_settlementApprovalId (write : RecordWrite) (now : Instant)
    (r : CommissionInvoiceRecord) :
    (write.apply now r).settlementApprovalId = r.settlementApprovalId := by
  cases write <;> rfl

end RecordWrite

/-- `assertReconciliationEvidence`. -/
def assertReconciliationEvidence (evidence : Json) : Except String Unit :=
  require evidence.isNonemptyRecord
    "Explicit reconciliation evidence is required before resolving UNKNOWN execution."

/-! ## The reconciliation with the provider's invoices -/

/-- The arguments of `applySettlementCommissionInvoiceReconciliation` that an execution gives. -/
structure InvoiceReconciliation where
  reconciliationStatus : String
  identifiers : ProviderIdentifiers
  documentStatus : Option String
  deriving DecidableEq

/-- What an execution records when it could not look at the provider's invoices. -/
def InvoiceReconciliation.failed : InvoiceReconciliation := ⟨"failed", .none, none⟩

/-- The invoice number that was found is not the one that the record has. -/
def hasInvoiceNoConflict (incoming existing : Option String) : Bool :=
  match incoming.bind Json.readText, existing.bind Json.readText with
  | some i, some e => decide (i ≠ e)
  | _, _ => false

/-- The update of `applySettlementCommissionInvoiceReconciliation`: what is not given is written as
it was read. -/
def InvoiceReconciliation.apply (input : InvoiceReconciliation) (existing : CommissionInvoiceRecord)
    (now : Instant) (r : CommissionInvoiceRecord) : CommissionInvoiceRecord :=
  let read := existing.identifiers
  let conflict := hasInvoiceNoConflict input.identifiers.invoiceNo read.invoiceNo
  { r with
    identifiers :=
      { providerInvoiceId := input.identifiers.providerInvoiceId.or read.providerInvoiceId
        providerUuid := input.identifiers.providerUuid.or read.providerUuid
        providerEttn := input.identifiers.providerEttn.or read.providerEttn
        invoiceNo := if conflict then read.invoiceNo
          else (input.identifiers.invoiceNo.bind Json.readText).or read.invoiceNo }
    documentStatus := input.documentStatus.or existing.documentStatus
    reconciliationStatus := some (if conflict then "conflict" else input.reconciliationStatus)
    reconciledAt := some now
    reconciledBy := some "system" }

/-! ## What the provider answers -/

/-- `LogoIsbasiRawResult`. -/
structure LogoIsbasiRawResult where
  status : ℕ
  body : Json
  jsonParseFailed : Bool

/-- The status is in the range 2xx. -/
def LogoIsbasiRawResult.ok (result : LogoIsbasiRawResult) : Bool :=
  decide (200 ≤ result.status ∧ result.status ≤ 299)

def readLogoCreateInvoiceRecord (body : Json) : Json :=
  if body.isRecord then
    (["data", "invoice", "result", "item"].findSome? fun key =>
      (body.field? key).filter Json.isRecord).getD body
  else body

def extractLogoCreateIdentifiers (body : Json) : ProviderIdentifiers :=
  let invoiceRecord := readLogoCreateInvoiceRecord body
  { providerInvoiceId :=
      invoiceRecord.readRecordString ["invoiceId", "id", "invoice_id", "salesInvoiceId"]
    providerUuid := invoiceRecord.readRecordString ["uuid", "uuId", "UUID"]
    providerEttn := invoiceRecord.readRecordString ["ettn", "ETTN", "eTtn"]
    invoiceNo := invoiceRecord.readRecordString ["invoiceNumber", "invoiceNo", "invoice_number",
      "number", "documentNumber", "serialNumber"] }

/-- The identifiers of a row of the provider's invoices; the UUID stands in for a missing ETTN. -/
def rowIdentifiers (invoice : Json) : ProviderIdentifiers :=
  let uuid := (invoice.readRecordString ["uuid", "UUID"]).or
    (invoice.readRecordString ["uuId", "UuId"])
  { providerInvoiceId := (invoice.readRecordString ["id"]).or
      ((invoice.readRecordString ["invoiceId"]).or (invoice.readRecordString ["salesInvoiceId"]))
    providerUuid := uuid
    providerEttn := (invoice.readRecordString ["ettn", "ETTN", "eTtn"]).or uuid
    invoiceNo := invoice.readRecordString ["invoiceNumber", "invoiceNo", "documentNumber",
      "number"] }

section Matching

-- `toLowerCase` of the source's language, for the letters of every alphabet
variable (toLowerCase : String → String)

def normalizeComparable (value : Option String) : Option String :=
  (value.map fun v => toLowerCase (trim v)).filter fun v => decide (v ≠ "")

/-- One of the texts is, up to case, the identifier. -/
def matchesIdentifier (identifier : Option String) (values : List (Option String)) : Bool :=
  (normalizeComparable toLowerCase identifier).any fun wanted =>
    values.any fun value => decide (normalizeComparable toLowerCase value = some wanted)

def invoiceMatchesRecord (invoice : Json) (record : ProviderIdentifiers) : Bool :=
  matchesIdentifier toLowerCase record.providerInvoiceId
      [invoice.readRecordString ["id"], invoice.readRecordString ["invoiceId"],
        invoice.readRecordString ["salesInvoiceId"]] ||
    matchesIdentifier toLowerCase record.providerUuid
      [invoice.readRecordString ["uuid", "UUID"], invoice.readRecordString ["uuId", "UuId"]]

/-- `mapFields`, as far as it is passed on. -/
def mapFields (invoice : Json) (record : ProviderIdentifiers) :
    ProviderIdentifiers × Option String :=
  let row := rowIdentifiers invoice
  ({ providerInvoiceId := row.providerInvoiceId.or record.providerInvoiceId
     providerUuid := row.providerUuid.or record.providerUuid
     providerEttn := row.providerEttn.or record.providerEttn
     invoiceNo := row.invoiceNo },
    invoice.readRecordString ["documentStatus", "documentStatusDescription", "statusDescription",
      "connectStatusDescription"])

/-- What `reconcileCreatedSalesInvoice` makes of the rows that the provider listed. -/
def reconciliationOf (record : ProviderIdentifiers) (rows : List Json) : InvoiceReconciliation :=
  match rows.filter fun row => invoiceMatchesRecord toLowerCase row record with
  | [] => ⟨"not_found", .none, none⟩
  | [row] =>
      let (identifiers, documentStatus) := mapFields row record
      let conflict := match record.invoiceNo.filter fun n => decide (n ≠ ""),
          identifiers.invoiceNo.filter fun n => decide (n ≠ "") with
        | some n, some candidate => decide (n ≠ candidate)
        | _, _ => false
      ⟨if conflict then "conflict" else "matched", identifiers, documentStatus⟩
  | _ => ⟨"ambiguous", .none, none⟩

end Matching

/-! ## The checks of an execution -/

/-- The environment of an execution. -/
structure LogoEnv where
  createEnabled : Bool
  createEnvironment : Option String
  expectedTenantId : Option String
  baseUrl : Option String
  apiKey : Option String
  username : Option String
  password : Option String

namespace LogoEnv

variable (env : LogoEnv)

def environment : Option String :=
  ((env.createEnvironment.bind Json.readText).map toLowerCase).filter fun e =>
    decide (e = "test") || decide (e = "production")

/-- Why the tenant does not pass; without one the check can wait for the login. -/
def tenantBlockers (actualTenantId : Option String) (deferTenantValidationUntilLogin : Bool) :
    List String :=
  match env.expectedTenantId.bind Json.readText, actualTenantId.bind Json.readText with
  | none, _ => []
  | some _, none =>
      if deferTenantValidationUntilLogin then []
      else ["Logo tenant id was not returned by login response; cannot validate expected tenant."]
  | some expected, some actual =>
      if expected = actual then []
      else ["Logo tenant mismatch. Authenticated Logo tenant does not match " ++
        "LOGO_ISBASI_EXPECTED_TENANT_ID."]

/-- The blockers of `validateLogoExecutionEnvironment`. -/
def validateLogoExecutionEnvironment (actualTenantId : Option String)
    (deferTenantValidationUntilLogin : Bool) : List String :=
  (if env.createEnabled then []
    else ["LOGO_ISBASI_CREATE_ENABLED must be true before Logo invoice execution."]) ++
  (if env.environment.isSome then []
    else ["LOGO_ISBASI_CREATE_ENVIRONMENT must be test or production before Logo invoice " ++
      "execution."]) ++
  (if (env.baseUrl.bind Json.readText).isSome then []
    else ["LOGO_ISBASI_BASE_URL is required before Logo invoice execution."]) ++
  env.tenantBlockers actualTenantId deferTenantValidationUntilLogin

def getMissingCredentialEnv : List String :=
  [("LOGO_ISBASI_API_KEY", env.apiKey), ("LOGO_ISBASI_USERNAME", env.username),
    ("LOGO_ISBASI_PASSWORD", env.password)].filterMap fun (name, value) =>
      if (value.bind Json.readText).isSome then none else some name

end LogoEnv

/-- The request snapshot has the shape that the immutable settlement truth gives it. -/
def hasImmutableSettlementTruthShape (snapshot : Json) : Bool :=
  (match snapshot.field? "provider" with
    | some (.string provider) => decide (provider = "LOGO_ISBASI")
    | _ => false) &&
  ["settlementApprovalSnapshot", "settlementBillingSnapshot", "settlementLineSnapshotSummary",
    "executionSnapshotGuard", "logoPayload"].all snapshot.hasRecord

/-- The blockers of `validateLogoExecutionContractRecord`. -/
def validateLogoExecutionContractRecord (record : CommissionInvoiceRecord) : List String :=
  (if record.status = .pending ∨ record.status = .failed then []
    else ["SettlementCommissionInvoice status must be PENDING or FAILED before Logo execution. " ++
      "Current status: " ++ record.status.text ++ "."]) ++
  (if record.requestSnapshotJson.isRecord then []
    else ["SettlementCommissionInvoice requestSnapshotJson is required before Logo execution."]) ++
  (if record.requestSnapshotJson.hasRecord "logoPayload" then []
    else ["SettlementCommissionInvoice requestSnapshotJson.logoPayload is required before Logo " ++
      "execution."]) ++
  if hasImmutableSettlementTruthShape record.requestSnapshotJson then []
  else ["SettlementCommissionInvoice request snapshot must come from immutable_settlement_truth " ++
    "before Logo execution."]

end VendorDashboard.Finance

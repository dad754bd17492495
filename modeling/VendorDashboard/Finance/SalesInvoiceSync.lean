import Mathlib.Data.Rat.Floor
import VendorDashboard.Finance.CommissionInvoiceRecord

/-!
# The synchronisation with the provider's sales invoices

The sales invoices that the provider lists are searched for the one of a commission invoice record
(`previewSettlementLogoOutgoingInvoiceSync`), and what is found is written into the record
(`persistSettlementLogoSalesInvoiceSync`).

The invoices come in pages; `list` is what the provider answers for each of them.  A reading ends at
a page that is not full, at the total count, or at `MAX_PAGES`.  `Number` of a text is the parameter
`toNumber`, whether a text is a date is `isDate`, and `toLowerCase` lower-cases all alphabets.
-/

namespace VendorDashboard.Finance.SalesInvoiceSync

open Text

def MAX_PAGES : ℕ := 5

def PAGE_SIZE : ℕ := 100

variable (toLowerCase : String → String) (toNumber : String → Option ℚ) (isDate : String → Bool)

/-! ## What a page says -/

def readNumber : Json → Option ℚ
  | .number text => text.bind fun t => toNumber t.val
  | .string s => if trim s = "" then none else toNumber s
  | _ => none

def arrayItems : Json → Option (List Json)
  | .array items => some items
  | _ => none

/-- The records of the first of the candidates that is an array. -/
def extractProviderRows (body : Json) : List Json :=
  let data := body.field? "data"
  let candidates := [data, data.bind (·.field? "data"), data.bind (·.field? "items"),
    data.bind (·.field? "list"), body.field? "items", body.field? "result"]
  ((candidates.findSome? fun candidate => candidate.bind arrayItems).getD []).filter Json.isRecord

/-- The first of the candidates of `extractProviderCount` that is a number. -/
def reportedCount (body : Json) : Option ℚ :=
  let data := body.field? "data"
  let candidates := [body.field? "count", body.field? "totalCount", body.field? "total",
    data.bind (·.field? "count"), data.bind (·.field? "totalCount"), data.bind (·.field? "total")]
  candidates.findSome? fun candidate => candidate.bind (readNumber toNumber)

def extractProviderCount (body : Json) (fallback : ℚ) : ℚ :=
  (reportedCount toNumber body).getD fallback

/-! ## The reading of the pages -/

structure SalesInvoicePages where
  rows : List Json
  totalProviderCount : ℚ
  pagesChecked : ℕ

/-- The pages after `page`, of which `left` may still be asked for. -/
def fetchPagesAfter (list : ℕ → LogoIsbasiRawResult) :
    (left page : ℕ) → List Json → ℚ → Except String SalesInvoicePages
  | 0, page, rows, totalProviderCount => .ok ⟨rows, totalProviderCount, page⟩
  | left + 1, page, rows, totalProviderCount =>
      let result := list (page + 1)
      if !result.ok || result.jsonParseFailed then
        .error (if result.jsonParseFailed then
            "Logo İşbaşı sales invoice list returned a non-JSON response."
          else "Logo İşbaşı sales invoice list failed with HTTP " ++ toString result.status ++ ".")
      else
        let pageRows := extractProviderRows result.body
        let read := rows ++ pageRows
        -- without a count on the page, what was read so far stands for it
        let total := max totalProviderCount
          (extractProviderCount toNumber result.body read.length)
        if pageRows.length < PAGE_SIZE ∨ total ≤ read.length then .ok ⟨read, total, page + 1⟩
        else fetchPagesAfter list left (page + 1) read total

def fetchSalesInvoicePages (list : ℕ → LogoIsbasiRawResult) : Except String SalesInvoicePages := do
  let pages ← fetchPagesAfter toNumber list MAX_PAGES 0 [] 0
  pure { pages with
    totalProviderCount := if pages.totalProviderCount = 0 then pages.rows.length
      else pages.totalProviderCount }

/-! ## The preview -/

/-- What the login answers; `missing` are the session fields that it does not give. -/
structure LogoLogin where
  ok : Bool
  jsonParseFailed : Bool
  missing : List String

/-- The blockers of `loginForLogoRead`. -/
def loginForLogoRead (login : LogoLogin) : List String :=
  let missingSessionFields := login.missing.filter fun field => decide (field ≠ "tenantId")
  if login.ok && !login.jsonParseFailed && missingSessionFields.isEmpty then []
  else if login.jsonParseFailed then ["Logo İşbaşı login returned a non-JSON response."]
  else if !login.ok then
    ["Logo İşbaşı login request failed before sales invoice sync preview."]
  else ["Logo İşbaşı login response is missing required session fields."]

def getMissingEnv (env : LogoEnv) : List String :=
  (if (env.baseUrl.bind Json.readText).isSome then [] else ["LOGO_ISBASI_BASE_URL"]) ++
    env.getMissingCredentialEnv

/-- A text that JavaScript takes for true. -/
def isGiven (text : Option String) : Bool := text.any fun t => decide (t ≠ "")

structure SalesInvoiceSearch where
  pagesChecked : ℕ
  totalProviderCount : ℚ
  matched : Bool
  ambiguity : Bool

/-- `LogoOutgoingInvoiceSyncPreviewResult`, as far as it is acted on. -/
structure LogoOutgoingInvoiceSyncPreview where
  ok : Bool
  blockers : List String
  warnings : List String
  record : Option ProviderIdentifiers
  search : SalesInvoiceSearch
  matchedInvoice : Option Json
  mappedFields : ProviderIdentifiers × Option String

def buildEmptyResult (record : Option ProviderIdentifiers) (blockers : List String) :
    LogoOutgoingInvoiceSyncPreview where
  ok := false
  blockers
  warnings := []
  record
  search := ⟨0, 0, false, false⟩
  matchedInvoice := none
  mappedFields := (.none, none)

/-- The outside world of a call: its environment, the login and the pages of the list. -/
structure LogoOutgoingInvoiceClient where
  env : LogoEnv
  login : LogoLogin
  list : ℕ → LogoIsbasiRawResult

/-- The blockers in the order in which they are found; the login is only tried when there are no
others. -/
def previewBlockers (client : LogoOutgoingInvoiceClient) (record : CommissionInvoiceRecord) :
    List String :=
  if record.status ≠ .created then
    ["SettlementCommissionInvoice status must be CREATED before Logo sales invoice sync preview."]
  else if !isGiven record.identifiers.providerInvoiceId &&
      !isGiven record.identifiers.providerUuid then
    ["SettlementCommissionInvoice providerInvoiceId or providerUuid is required before Logo " ++
      "sales invoice sync preview."]
  else if getMissingEnv client.env ≠ [] then
    ["Missing Logo İşbaşı env for sales invoice sync preview: " ++
      ", ".intercalate (getMissingEnv client.env) ++ "."]
  else loginForLogoRead client.login

/-- What is made of the rows that were read. -/
def previewOf (record : CommissionInvoiceRecord) (pageResult : SalesInvoicePages) :
    LogoOutgoingInvoiceSyncPreview :=
  let hits := pageResult.rows.filter fun row =>
    invoiceMatchesRecord toLowerCase row record.identifiers
  let ambiguity := decide (1 < hits.length)
  let matched := decide (hits.length = 1)
  let matchedRecord := if matched then hits.head? else none
  { ok := true
    blockers := []
    warnings := if ambiguity then
        ["Multiple Logo sales invoice rows matched the same provider invoice id or UUID; no " ++
          "mapped invoice was selected."]
      else []
    record := some record.identifiers
    search := ⟨pageResult.pagesChecked, pageResult.totalProviderCount, matched, ambiguity⟩
    matchedInvoice := matchedRecord
    mappedFields := match matchedRecord with
      | none => (.none, none)
      | some row => mapFields row record.identifiers }

def previewSettlementLogoOutgoingInvoiceSync (client : LogoOutgoingInvoiceClient)
    (record : Option CommissionInvoiceRecord) : Except String LogoOutgoingInvoiceSyncPreview :=
  match record with
  | none => .ok (buildEmptyResult none
      ["SettlementCommissionInvoice record could not be found."])
  | some record =>
      let blockers := previewBlockers client record
      if blockers ≠ [] then .ok (buildEmptyResult (some record.identifiers) blockers)
      else (fetchSalesInvoicePages toNumber client.list).map (previewOf toLowerCase record)

/-! ## The synchronisation -/

/-- `mappedFields.invoiceDate`. -/
def invoiceDate (invoice : Json) : Option String :=
  (invoice.readRecordString ["date", "invoiceDate"]).or (invoice.readRecordString ["issueDate"])

/-- `applySettlementCommissionInvoiceReconciliation` with the arguments of a synchronisation. -/
def applySalesInvoice (input : InvoiceReconciliation) (date reconciledBy : Option String)
    (now : Instant) (existing : CommissionInvoiceRecord) :
    Except String CommissionInvoiceRecord := do
  Transaction.require (existing.status = .created)
    ("applySettlementCommissionInvoiceReconciliation is not allowed for " ++
      "SettlementCommissionInvoice " ++ toString existing.id ++ " while status is " ++
      existing.status.text ++ ".")
  Transaction.require (date.all isDate) "invoiceDate must be a valid date."
  pure { input.apply existing now existing with
    reconciledBy := some (reconciledBy.getD "system") }

/-- A result without a write has its blockers. -/
structure PersistSettlementLogoSalesInvoiceSyncResult where
  blockers : List String
  record : Option CommissionInvoiceRecord

def buildBlockedSyncResult (blocker : String) : PersistSettlementLogoSalesInvoiceSyncResult :=
  ⟨[blocker], none⟩

/-- The invoice that was found is another one than that of the record. -/
def hasProviderInvoiceIdConflict (incoming existing : Option String) : Bool :=
  match normalizeComparable toLowerCase existing, normalizeComparable toLowerCase incoming with
  | some e, some i => decide (e ≠ i)
  | _, _ => false

def persistSettlementLogoSalesInvoiceSync (client : LogoOutgoingInvoiceClient)
    (syncedBy : Option String) (now : Instant) (record : Option CommissionInvoiceRecord) :
    Except String PersistSettlementLogoSalesInvoiceSyncResult := do
  let preview ← previewSettlementLogoOutgoingInvoiceSync toLowerCase toNumber client record
  if !preview.ok || preview.blockers ≠ [] then
    return ⟨if preview.blockers ≠ [] then preview.blockers
      else ["Logo sales invoice sync preview did not pass."], none⟩
  if preview.search.ambiguity then
    return buildBlockedSyncResult
      "Logo sales invoice sync cannot be persisted because multiple Logo sales invoices matched this record."
  if !preview.search.matched then
    return buildBlockedSyncResult
      "Logo sales invoice sync cannot be persisted because no matching Logo sales invoice was found."
  let mapped := preview.mappedFields.1
  let read := preview.record.getD .none
  if hasInvoiceNoConflict mapped.invoiceNo read.invoiceNo then
    return buildBlockedSyncResult
      "Existing invoiceNo differs from the Logo sales invoice match; sync is blocked to prevent overwrite."
  if hasProviderInvoiceIdConflict toLowerCase mapped.providerInvoiceId read.providerInvoiceId then
    return buildBlockedSyncResult
      "Existing providerInvoiceId differs from the Logo sales invoice match; sync is blocked to prevent wrong invoice linkage."
  let existing ← match record with
    | none => throw "SettlementCommissionInvoice record could not be found."
    | some existing => pure existing
  let written ← applySalesInvoice isDate
    ⟨"MATCHED_FROM_LOGO_SALES_INVOICE",
      { mapped with providerUuid := mapped.providerUuid.or read.providerUuid },
      preview.mappedFields.2⟩
    (preview.matchedInvoice.bind invoiceDate) syncedBy now existing
  return ⟨[], some written⟩

end VendorDashboard.Finance.SalesInvoiceSync

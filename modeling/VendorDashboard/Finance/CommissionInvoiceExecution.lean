import VendorDashboard.Framework.Interleaving
import VendorDashboard.Finance.CommissionInvoiceRecord
import VendorDashboard.Finance.System

/-!
# Executing the commission invoices

The calls that work on commission invoice records, each statement and each request a step:

* `executeSettlementLogoCommissionInvoiceCreate` reads the record and its settlement, looks for
  another active record, checks and logs in, asks the provider to create the invoice, records the
  outcome, and reconciles a created record with the provider's invoices;
* `resolveUnknownAsCreated` and `resolveUnknownAsFailed`;
* `createPendingRecordFromImmutableRequestSnapshot`, which reads the settlement, looks for an active
  record and inserts one.

Beside them the finance transactions run, `cancelSettlementApproval` among them, which reads the
records.  What `buildSettlementLogoCommissionInvoiceRequestSnapshot` builds from an approved
settlement, the answers of the provider and the clock come from outside.

`calls` is not a table: it records the calls of `createIntegrationInvoice`, whether the provider has
created an invoice for a call, whether its outcome was recorded, and whether it was found later that
there is none.
-/

namespace VendorDashboard.Finance

open Table Transaction Interleaving

/-! ## The store -/

/-- What came of a call of `createIntegrationInvoice`. -/
inductive CreateResult
  | response (result : LogoIsbasiRawResult)
  | thrown

structure InvoiceCreateCall where
  run : ℕ
  record : Id
  result : Option CreateResult
  /-- The provider has created an invoice for it. -/
  effect : Bool
  /-- An outcome was recorded. -/
  recorded : Bool
  /-- The record was later resolved as failed. -/
  disproved : Bool

structure InvoiceStore where
  finance : FinanceDb
  records : List CommissionInvoiceRecord
  calls : List InvoiceCreateCall

namespace InvoiceStore

variable (s : InvoiceStore)

/-- The database as the finance transactions see it. -/
def db : FinanceDb :=
  { s.finance with
    settlementCommissionInvoice := s.records.map CommissionInvoiceRecord.toInvoice }

def findRecord (id : Id) : Option CommissionInvoiceRecord :=
  findRow CommissionInvoiceRecord.id id s.records

/-- `findActiveInvoiceForSettlement`. -/
def findActive (settlementApprovalId : Id) : Option CommissionInvoiceRecord :=
  s.records.find? fun r =>
    decide (r.settlementApprovalId = settlementApprovalId) && decide (r.status ≠ .cancelled)

def updateRecord (id : Id) (f : CommissionInvoiceRecord → CommissionInvoiceRecord) : InvoiceStore :=
  { s with records := updateWhere (fun r => decide (r.id = id)) f s.records }

def updateCalls (p : InvoiceCreateCall → Bool) (f : InvoiceCreateCall → InvoiceCreateCall) :
    InvoiceStore :=
  { s with calls := updateWhere p f s.calls }

/-- Run `i` sends the request. -/
def call (i : ℕ) (record : Id) : InvoiceStore :=
  { s with calls := s.calls ++ [⟨i, record, none, false, false, false⟩] }

/-- Run `i` gets an answer. -/
def answered (i : ℕ) (result : CreateResult) : InvoiceStore :=
  s.updateCalls (fun c => decide (c.run = i)) fun c => { c with result := some result }

/-- Run `i` records its outcome. -/
def outcomeRecorded (i : ℕ) : InvoiceStore :=
  s.updateCalls (fun c => decide (c.run = i)) fun c => { c with recorded := true }

/-- There is no invoice for the record. -/
def disproved (record : Id) : InvoiceStore :=
  s.updateCalls (fun c => decide (c.record = record)) fun c => { c with disproved := true }

/-- The provider creates the invoice of run `i`. -/
def takesEffect (i : ℕ) : InvoiceStore :=
  s.updateCalls (fun c => decide (c.run = i)) fun c => { c with effect := true }

/-- Insert a record; at most one of a settlement is not cancelled. -/
def insertRecord (r : CommissionInvoiceRecord) : Option InvoiceStore :=
  if (∀ r' ∈ s.records, r'.id ≠ r.id) ∧
      (∀ r' ∈ s.records, r'.settlementApprovalId = r.settlementApprovalId →
        r'.status = .cancelled) then
    some { s with records := s.records ++ [r] }
  else none

end InvoiceStore

/-! ## The calls -/

structure ExecuteInput where
  settlementCommissionInvoiceId : Id
  env : LogoEnv

inductive ExecuteStatus
  | blocked | failed | unknown | created
  deriving DecidableEq

structure ExecuteResult where
  status : ExecuteStatus
  blockers : List String
  deriving DecidableEq

/-- What an execution makes of the answer of the provider. -/
inductive CreateOutcome
  | created (identifiers : ProviderIdentifiers)
  | failed (failureCode failureMessage : Option String)
  | unknown (unknownReason : String)
  /-- The invoice was created and `markCreated` failed. -/
  | unrecorded

def CreateOutcome.write : CreateOutcome → RecordWrite
  | .created identifiers => .markCreated identifiers
  | .failed failureCode failureMessage => .markFailed failureCode failureMessage
  | .unknown unknownReason => .markUnknown unknownReason
  | .unrecorded => .markUnknown ("Local persistence ambiguity after Logo create provider success. " ++
      "Reconciliation is required before retry.")

def outcomeOf : CreateResult → CreateOutcome
  | .thrown => .unknown ("Logo create returned an ambiguous network/timeout result. " ++
      "Reconciliation is required before retry.")
  | .response result =>
      if result.ok = false then
        if result.jsonParseFailed then
          .failed (some "LOGO_ISBASI_JSON_PARSE_FAILED")
            (some "Logo İşbaşı returned a non-JSON error response.")
        else
          .failed (some "LOGO_ISBASI_UPSTREAM_NON_2XX")
            (some ((result.body.readRecordString ["message", "error", "errorMessage"]).getD
              "Logo İşbaşı invoice create request failed."))
      else if result.jsonParseFailed then
        .unknown ("Logo create returned a successful but non-JSON response. " ++
          "Reconciliation is required before retry.")
      else .created (extractLogoCreateIdentifiers result.body)

inductive ExecutePosition
  | readRecord
  | findActive (record : CommissionInvoiceRecord)
  | login (record : CommissionInvoiceRecord)
  | readForRetry (record : CommissionInvoiceRecord)
  | incrementRetry (record : CommissionInvoiceRecord)
  | create (record : CommissionInvoiceRecord)
  /-- `createIntegrationInvoice` was called. -/
  | awaitCreate
  | readForOutcome (outcome : CreateOutcome)
  | writeOutcome (outcome : CreateOutcome)
  | readForPreview
  | listInvoices (record : CommissionInvoiceRecord)
  | readForReconciliation (input : InvoiceReconciliation)
  | writeReconciliation (input : InvoiceReconciliation) (existing : CommissionInvoiceRecord)
  /-- An error is one that was thrown. -/
  | ended (result : Except String ExecuteResult)

inductive ResolvePosition
  | read
  | write
  | ended (result : Except String Unit)

inductive PendingPosition
  | buildSnapshot
  | findActive (vendorId : String) (requestSnapshotJson : Json)
  | insert (vendorId : String) (requestSnapshotJson : Json)
  | ended (result : Except String Bool)

inductive InvoiceProcess
  | execute (input : ExecuteInput) (position : ExecutePosition)
  | resolve (id : Id) (write : RecordWrite) (position : ResolvePosition)
  | createPending (settlementApprovalId : Id) (position : PendingPosition)

/-- What a process is called with. -/
inductive InvoiceCall
  | execute (input : ExecuteInput)
  | resolveUnknownAsCreated (id : Id) (identifiers : ProviderIdentifiers)
      (reconciledBy : Option String) (evidence : Json)
  | resolveUnknownAsFailed (id : Id) (failureCode failureMessage reconciledBy : Option String)
      (evidence : Json)
  | createPending (settlementApprovalId : Id)

structure LogoLogin where
  ok : Bool
  jsonParseFailed : Bool
  missingSessionFields : Bool
  tenantId : Option String

/-- What a step finds outside. -/
inductive InvoiceAnswer
  | statement (now : Instant)
  /-- A statement fails and has no effect. -/
  | failed
  /-- A statement commits and its answer is lost. -/
  | lost (now : Instant)
  | login (answer : Except String LogoLogin)
  /-- The request of `createIntegrationInvoice` is sent. -/
  | sent
  | result (result : CreateResult)
  /-- The rows of the provider's invoices, or why they could not be read. -/
  | rows (rows : Except String (List Json))
  /-- The snapshot that an approved settlement gives, or the blockers. -/
  | snapshot (built : Except (List String) Json)
  | inserted (id : Id) (now : Instant)

/-! ## The execution -/

def blocked (blockers : List String) : ExecutePosition := .ended (.ok ⟨.blocked, blockers⟩)

/-- The checks of the record that was read together with its settlement. -/
def executionBlockers (record : CommissionInvoiceRecord)
    (approval : Option SettlementApproval) : List String :=
  if record.status = .unknown then ["UNKNOWN execution must be reconciled before retry."]
  else if ¬(record.status = .pending ∨ record.status = .failed) then
    ["SettlementCommissionInvoice status " ++ record.status.text ++ " is not executable."]
  else if approval.map (·.status) ≠ some .approved then
    ["SettlementApproval must be APPROVED before Logo invoice execution."]
  else []

def afterReadRecord (record : Option CommissionInvoiceRecord)
    (approval : Option SettlementApproval) : ExecutePosition :=
  match record with
  | none => blocked ["SettlementCommissionInvoice record could not be found."]
  | some record =>
      match executionBlockers record approval with
      | [] => .findActive record
      | blockers => blocked blockers

/-- The checks that need no request. -/
def afterFindActive (env : LogoEnv) (record : CommissionInvoiceRecord)
    (active : Option CommissionInvoiceRecord) : ExecutePosition :=
  match active.filter fun a => decide (a.id ≠ record.id) with
  | some active => blocked [
      "SettlementApproval already has a different active LOGO_ISBASI commission invoice record (" ++
        toString active.id ++ ", " ++ active.status.text ++ ")."]
  | none =>
      match validateLogoExecutionContractRecord record ++
          env.validateLogoExecutionEnvironment none true with
      | [] =>
          if env.getMissingCredentialEnv = [] then .login record
          else blocked ["Logo İşbaşı credentials are required before invoice execution."]
      | blockers => blocked blockers

def afterLogin (env : LogoEnv) (record : CommissionInvoiceRecord) :
    Except String LogoLogin → ExecutePosition
  | .error error => blocked ["Logo İşbaşı login failed before invoice create: " ++ error]
  | .ok login =>
      if login.jsonParseFailed then blocked ["Logo İşbaşı login returned a non-JSON response."]
      else if login.ok = false then
        blocked ["Logo İşbaşı login request failed before invoice create."]
      else if login.missingSessionFields then
        blocked ["Logo İşbaşı login response is missing required session fields."]
      else
        match env.validateLogoExecutionEnvironment login.tenantId false with
        | [] => if record.status = .failed then .readForRetry record else .create record
        | blockers => blocked blockers

/-- What follows when recording an outcome throws. -/
def CreateOutcome.thrown (error : String) : CreateOutcome → ExecutePosition
  | .created _ => .readForOutcome .unrecorded
  | .unrecorded => .ended (.ok ⟨.unknown, [
      "Logo create may have succeeded, but local status persistence failed. Manual " ++
        "reconciliation is required before retry."]⟩)
  | .failed .. | .unknown _ => .ended (.error error)

def CreateOutcome.recorded : CreateOutcome → ExecutePosition
  | .created _ => .readForPreview
  | .failed .. => .ended (.ok ⟨.failed, []⟩)
  | .unknown _ => .ended (.ok ⟨.unknown, [
      "Logo create outcome is UNKNOWN. Reconciliation is required before retry."]⟩)
  | .unrecorded => .ended (.ok ⟨.unknown, [
      "Logo create may have succeeded, but local CREATED persistence failed. Reconciliation is " ++
        "required."]⟩)

def endedCreated : ExecutePosition := .ended (.ok ⟨.created, []⟩)

/-- What follows when a reconciliation throws: it is recorded as failed, once. -/
def InvoiceReconciliation.thrown (input : InvoiceReconciliation) : ExecutePosition :=
  if input = .failed then endedCreated else .readForReconciliation .failed

/-- The preview looks at the provider's invoices only for a created record with identifiers. -/
def afterReadForPreview (toLowerCase : String → String)
    (record : Option CommissionInvoiceRecord) : ExecutePosition :=
  match record.filter fun r => decide (r.status = .created) &&
      (r.identifiers.providerInvoiceId.any (fun id => decide (id ≠ "")) ||
        r.identifiers.providerUuid.any (fun uuid => decide (uuid ≠ ""))) with
  | some record => .listInvoices record
  | none => .readForReconciliation (reconciliationOf toLowerCase .none [])

/-- The read of a function of the record service, and its check. -/
def readFor (write : RecordWrite) (record : Option CommissionInvoiceRecord) :
    Except String CommissionInvoiceRecord := do
  let record ← getOrThrow record "SettlementCommissionInvoice record could not be found."
  write.assertStatus record
  pure record

/-- The read of `applySettlementCommissionInvoiceReconciliation`, and its check. -/
def readForApply (record : Option CommissionInvoiceRecord) :
    Except String CommissionInvoiceRecord := do
  let record ← getOrThrow record "SettlementCommissionInvoice record could not be found."
  require (record.status = .created)
    ("applySettlementCommissionInvoiceReconciliation is not allowed for " ++
      "SettlementCommissionInvoice " ++ toString record.id ++ " while status is " ++
      record.status.text ++ ".")
  pure record

def STATEMENT_FAILED : String := "The statement failed."

/-- The update of a function of the record service. -/
def InvoiceStore.write (s : InvoiceStore) (id : Id) (write : RecordWrite) (now : Instant) :
    InvoiceStore :=
  s.updateRecord id (write.apply now)

/-- The update of an outcome by run `i`. -/
def InvoiceStore.writeOutcome (s : InvoiceStore) (i : ℕ) (id : Id) (outcome : CreateOutcome)
    (now : Instant) : InvoiceStore :=
  (s.write id outcome.write now).outcomeRecorded i

def ExecutePosition.run (toLowerCase : String → String) (input : ExecuteInput) (i : ℕ)
    (answer : InvoiceAnswer) (s : InvoiceStore) (position : ExecutePosition) : Option (InvoiceStore × ExecutePosition) :=
  let id := input.settlementCommissionInvoiceId
  match position, answer with
  | .readRecord, .statement _ =>
      let record := s.findRecord id
      some (s, afterReadRecord record
        (record.bind fun r => s.finance.findApproval r.settlementApprovalId))
  | .findActive record, .statement _ =>
      some (s, afterFindActive input.env record (s.findActive record.settlementApprovalId))
  | .login record, .login session => some (s, afterLogin input.env record session)
  | .readForRetry record, .statement _ =>
      some (s, match readFor .incrementRetry (s.findRecord id) with
        | .ok _ => .incrementRetry record
        | .error error => .ended (.error error))
  | .incrementRetry record, .statement now => some (s.write id .incrementRetry now, .create record)
  | .incrementRetry _, .lost now =>
      some (s.write id .incrementRetry now, .ended (.error STATEMENT_FAILED))
  | .create _, .sent => some (s.call i id, .awaitCreate)
  | .awaitCreate, .result result => some (s.answered i result, .readForOutcome (outcomeOf result))
  | .readForOutcome outcome, .statement _ =>
      some (s, match readFor outcome.write (s.findRecord id) with
        | .ok _ => .writeOutcome outcome
        | .error error => outcome.thrown error)
  | .readForOutcome outcome, .failed => some (s, outcome.thrown STATEMENT_FAILED)
  | .writeOutcome outcome, .statement now => some (s.writeOutcome i id outcome now, outcome.recorded)
  | .writeOutcome outcome, .lost now =>
      some (s.writeOutcome i id outcome now, outcome.thrown STATEMENT_FAILED)
  | .writeOutcome outcome, .failed => some (s, outcome.thrown STATEMENT_FAILED)
  | .readForPreview, .statement _ => some (s, afterReadForPreview toLowerCase (s.findRecord id))
  | .readForPreview, .failed => some (s, .readForReconciliation .failed)
  | .listInvoices _, .rows (.error _) => some (s, .readForReconciliation .failed)
  | .listInvoices record, .rows (.ok rows) =>
      some (s, .readForReconciliation (reconciliationOf toLowerCase record.identifiers rows))
  | .readForReconciliation input, .statement _ =>
      some (s, match readForApply (s.findRecord id) with
        | .ok existing => .writeReconciliation input existing
        | .error _ => input.thrown)
  | .readForReconciliation input, .failed => some (s, input.thrown)
  | .writeReconciliation input existing, .statement now =>
      some (s.updateRecord id (input.apply existing now), endedCreated)
  | .writeReconciliation input existing, .lost now =>
      some (s.updateRecord id (input.apply existing now), input.thrown)
  | .writeReconciliation input _, .failed => some (s, input.thrown)
  | .readRecord, .failed | .findActive _, .failed | .readForRetry _, .failed
  | .incrementRetry _, .failed => some (s, .ended (.error STATEMENT_FAILED))
  | _, _ => none

/-! ## The other calls -/

/-- The calls of the record, once the outcome of a resolution is written. -/
def InvoiceStore.resolve (s : InvoiceStore) (id : Id) (write : RecordWrite) (now : Instant) :
    InvoiceStore :=
  match write with
  | .resolveUnknownAsFailed .. => (s.write id write now).disproved id
  | _ => s.write id write now

def ResolvePosition.run (id : Id) (write : RecordWrite) (answer : InvoiceAnswer) (s : InvoiceStore)
    (position : ResolvePosition) : Option (InvoiceStore × ResolvePosition) :=
  match position, answer with
  | .read, .statement _ =>
      some (s, match readFor write (s.findRecord id) with
        | .ok _ => .write
        | .error error => .ended (.error error))
  | .write, .statement now => some (s.resolve id write now, .ended (.ok ()))
  | .write, .lost now => some (s.resolve id write now, .ended (.error STATEMENT_FAILED))
  | .read, .failed | .write, .failed => some (s, .ended (.error STATEMENT_FAILED))
  | _, _ => none

/-- `buildSettlementLogoCommissionInvoiceRequestSnapshot`, and the vendor that it names. -/
def afterBuildSnapshot (approval : Option SettlementApproval)
    (built : Except (List String) Json) : PendingPosition :=
  if approval.map (·.status) ≠ some .approved then .ended (.ok false)
  else
    match built with
    | .error _ => .ended (.ok false)
    | .ok snapshot =>
        match snapshot.readRecordString ["vendorId"] with
        | none => .ended (.ok false)
        | some vendorId => .findActive vendorId snapshot

def PendingPosition.run (settlementApprovalId : Id) (answer : InvoiceAnswer) (s : InvoiceStore)
    (position : PendingPosition) : Option (InvoiceStore × PendingPosition) :=
  match position, answer with
  | .buildSnapshot, .snapshot built =>
      some (s, afterBuildSnapshot (s.finance.findApproval settlementApprovalId) built)
  | .findActive vendorId snapshot, .statement _ =>
      some (s, match s.findActive settlementApprovalId with
        | some _ => .ended (.ok false)
        | none => .insert vendorId snapshot)
  | .insert vendorId snapshot, .inserted id now =>
      match s.insertRecord (pendingRecord id settlementApprovalId vendorId snapshot now) with
      | some s => some (s, .ended (.ok true))
      | none => some (s, .ended (.ok false))
  | .buildSnapshot, .failed | .findActive .., .failed | .insert .., .failed =>
      some (s, .ended (.error STATEMENT_FAILED))
  | _, _ => none

/-! ## The system -/

/-- A move beside the calls. -/
inductive InvoiceMove
  | finance (a : Action)
  /-- The provider creates the invoice of a call. -/
  | takesEffect (run : ℕ)

/-- The action does not write the records by itself. -/
def Action.keepsInvoices : Action → Bool
  | .setCommissionInvoices _ => false
  | _ => true

namespace InvoiceProcess

def start : InvoiceCall → InvoiceProcess
  | .execute input => .execute input .readRecord
  | .resolveUnknownAsCreated id identifiers reconciledBy evidence =>
      .resolve id (.resolveUnknownAsCreated identifiers reconciledBy)
        (match assertReconciliationEvidence evidence with
          | .ok _ => .read
          | .error error => .ended (.error error))
  | .resolveUnknownAsFailed id failureCode failureMessage reconciledBy evidence =>
      .resolve id (.resolveUnknownAsFailed failureCode failureMessage reconciledBy)
        (match assertReconciliationEvidence evidence with
          | .ok _ => .read
          | .error error => .ended (.error error))
  | .createPending settlementApprovalId => .createPending settlementApprovalId .buildSnapshot

def run (toLowerCase : String → String) (i : ℕ) (answer : InvoiceAnswer) (s : InvoiceStore)
    (p : InvoiceProcess) : Option (InvoiceStore × InvoiceProcess) :=
  match p with
  | .execute input position =>
      (position.run toLowerCase input i answer s).map fun (s, q) => (s, .execute input q)
  | .resolve id write position =>
      (position.run id write answer s).map fun (s, q) => (s, .resolve id write q)
  | .createPending settlementApprovalId position =>
      (position.run settlementApprovalId answer s).map fun (s, q) =>
        (s, .createPending settlementApprovalId q)

end InvoiceProcess

def InvoiceMove.apply (s : InvoiceStore) : InvoiceMove → Option InvoiceStore
  | .finance a =>
      if a.keepsInvoices then (step a s.db).toOption.map fun finance => { s with finance } else none
  | .takesEffect run => some (s.takesEffect run)

def invoiceProgram (toLowerCase : String → String) :
    Program InvoiceStore InvoiceProcess InvoiceCall InvoiceAnswer InvoiceMove where
  start := InvoiceProcess.start
  run := InvoiceProcess.run toLowerCase
  outside e s := e.apply s

/-- A store without records, over any state of the finance tables. -/
def InvoiceStore.New (s : InvoiceStore) : Prop :=
  ReachableDb s.finance ∧ s.records = [] ∧ s.calls = []

abbrev InvoiceWorld := World InvoiceStore InvoiceProcess

/-! ## What the claims assume of the surroundings -/

/-- The provider has refused the request. -/
def CreateResult.Rejected : CreateResult → Prop
  | .response result => 400 ≤ result.status ∧ result.status ≤ 499
  | .thrown => False

instance (result : CreateResult) : Decidable result.Rejected :=
  match result with
  | .response _ => inferInstanceAs (Decidable (_ ∧ _))
  | .thrown => inferInstanceAs (Decidable False)

def InvoiceCreateCall.Rejected (c : InvoiceCreateCall) : Prop := ∃ r ∈ c.result, r.Rejected

instance (c : InvoiceCreateCall) : Decidable c.Rejected := inferInstanceAs (Decidable (∃ _ ∈ _, _))

/-- The provider creates no invoice for a call that it has refused. -/
def ProviderBehaves (w : InvoiceWorld) : Move InvoiceCall InvoiceAnswer InvoiceMove → Prop
  | .run i (.result result) => result.Rejected → ∀ c ∈ w.shared.calls, c.run = i → c.effect = false
  | .outside (.takesEffect i) => ∀ c ∈ w.shared.calls, c.run = i → ¬c.Rejected
  | _ => True

/-- A resolution as failed finds that no invoice was created for the record. -/
def InvoiceProcess.Truthful (s : InvoiceStore) : InvoiceProcess → Prop
  | .resolve id (.resolveUnknownAsFailed ..) .write =>
      ∀ c ∈ s.calls, c.record = id → c.effect = false
  | _ => True

instance (s : InvoiceStore) (p : InvoiceProcess) : Decidable (p.Truthful s) := by
  unfold InvoiceProcess.Truthful
  split <;> infer_instance

/-- A record is resolved as failed only when no invoice was created for it, nor will be. -/
def ResolutionsTruthful (w : InvoiceWorld) : Move InvoiceCall InvoiceAnswer InvoiceMove → Prop
  | .run i _ => ∀ p ∈ w.process i, p.Truthful w.shared
  | .outside (.takesEffect i) => ∀ c ∈ w.shared.calls, c.run = i → c.disproved = false
  | _ => True

/-- What a run may assume of the provider and of the operators. -/
def Admissible (w : InvoiceWorld) (m : Move InvoiceCall InvoiceAnswer InvoiceMove) : Prop :=
  ProviderBehaves w m ∧ ResolutionsTruthful w m

instance (w : InvoiceWorld) (m : Move InvoiceCall InvoiceAnswer InvoiceMove) :
    Decidable (Admissible w m) := by
  unfold Admissible ProviderBehaves ResolutionsTruthful
  refine @instDecidableAnd _ _ ?_ ?_ <;> split <;> infer_instance

end VendorDashboard.Finance

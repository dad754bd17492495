import Mathlib.Data.Rat.Floor
import Mathlib.Data.List.Sort
import VendorDashboard.Finance.Money
import VendorDashboard.Framework.Json

/-!
# The two guards of the execution snapshots

Before the commission of a settlement is invoiced, each line must carry the terms under which it was
settled.  `buildStrictExecutionSnapshotGuard` reads the frozen line alone;
`validateSettlementApprovalExecutionSnapshots` falls back to the line's ledger row and says so.

Both make the same checks (`snapshotChecks`) and differ in what they read.  The validation also
fills its report into arrays that all its reports share (`SharedLineIds`): the empty report is
copied, and the arrays in it are not.  `Number` of a text is the parameter `toNumber`.
-/

namespace VendorDashboard.Finance.ExecutionSnapshots

open Text

/-! ## Lines -/

inductive SnapshotField
  | commissionPercentSnapshot | commissionVatPercentSnapshot | deductShippingEnabledSnapshot
  | shippingModeSnapshot | fixedShippingFeeSnapshot | shippingCostSnapshot
  | shippingCostSourceSnapshot | shippingCostProviderSnapshot | shippingCostIdSnapshot
  deriving DecidableEq

def SnapshotField.name : SnapshotField → String
  | .commissionPercentSnapshot => "commissionPercentSnapshot"
  | .commissionVatPercentSnapshot => "commissionVatPercentSnapshot"
  | .deductShippingEnabledSnapshot => "deductShippingEnabledSnapshot"
  | .shippingModeSnapshot => "shippingModeSnapshot"
  | .fixedShippingFeeSnapshot => "fixedShippingFeeSnapshot"
  | .shippingCostSnapshot => "shippingCostSnapshot"
  | .shippingCostSourceSnapshot => "shippingCostSourceSnapshot"
  | .shippingCostProviderSnapshot => "shippingCostProviderSnapshot"
  | .shippingCostIdSnapshot => "shippingCostIdSnapshot"

/-- What the guards read of a ledger row: its snapshot columns, and when it was voided. -/
structure GuardLedger where
  snapshot : SnapshotField → Json
  voidedAt : Option Instant

structure GuardLine where
  id : Id
  lineType : SettlementApprovalLineType
  commissionMinor : ℤ
  commissionVatMinor : ℤ
  sourceSnapshotJson : Json
  financeLedgerEntry : Option GuardLedger

structure GuardApproval where
  status : SettlementApprovalStatus
  lines : List GuardLine

def isLedgerVoided (ledger : Option GuardLedger) : Bool := ledger.any (·.voidedAt.isSome)

def lineRequiresPolicySnapshots (line : GuardLine) : Bool :=
  decide (line.lineType = .sale) || decide (0 < line.commissionMinor) ||
    decide (0 < line.commissionVatMinor)

def GuardApproval.executionLines (approval : GuardApproval) : List GuardLine :=
  approval.lines.filter lineRequiresPolicySnapshots

/-! ## Snapshot values -/

def hasSnapshotValue : Json → Bool
  | .null => false
  | .string s => decide (s ≠ "")
  | _ => true

section Values

variable (toNumber : String → Option ℚ)

/-- `Number(value)`, if it is finite. -/
def numberOf : Json → Option ℚ
  | .null => some 0
  | .bool b => some (if b then 1 else 0)
  | .number text => text.bind fun t => toNumber t.val
  | .string s => toNumber s
  | .array items => toNumber (Json.array items).toText
  | .object _ => none

def snapshotNumber (value : Json) : Option ℚ :=
  if hasSnapshotValue value then numberOf toNumber value else none

/-- The percent in four decimals.  The source rounds `numeric * 10000` as a double, which may fall
on the other side of a half for a percent of five decimals (`18.00145`); here it is exact. -/
def normalizePercent (value : Json) : Option ℚ :=
  (snapshotNumber toNumber value).bind fun numeric =>
    if numeric < 0 ∨ 100 < numeric then none else some (round (numeric * 10000) / 10000)

def normalizeBoolean : Json → Option Bool
  | .bool b => some b
  | .string s =>
      let normalized := toLowerCase (trim s)
      if normalized = "true" then some true
      else if normalized = "false" then some false
      else none
  | _ => none

def normalizeShippingMode (value : Json) : Option ShippingMode :=
  let text := match value with
    | .null => ""
    | value => value.toText
  let normalized := toLowerCase (trim text)
  if normalized = "disabled" then some .disabled
  else if normalized = "fixed" then some .fixed
  else if normalized = "external_provider" then some .externalProvider
  else none

end Values

inductive SnapshotSource
  | line | ledger | missing
  deriving DecidableEq

structure SnapshotValue where
  value : Json
  source : SnapshotSource

/-- What the frozen line says. -/
def readLineValue (line : GuardLine) (field : SnapshotField) : SnapshotValue :=
  ⟨(line.sourceSnapshotJson.field? field.name).getD .null, .line⟩

/-- What the line says, or else its ledger row. -/
def readSnapshotValue (line : GuardLine) (field : SnapshotField) : SnapshotValue :=
  let lineValue := (readLineValue line field).value
  let ledgerValue := (line.financeLedgerEntry.map fun ledger => ledger.snapshot field).getD .null
  if hasSnapshotValue lineValue then ⟨lineValue, .line⟩
  else if hasSnapshotValue ledgerValue then ⟨ledgerValue, .ledger⟩
  else ⟨.null, .missing⟩

/-! ## The checks of a line -/

/-- The items of the report, in its order. -/
inductive CompletenessField
  | commissionPercentSnapshot | commissionVatPercentSnapshot | deductShippingEnabledSnapshot
  | shippingModeSnapshot | fixedShippingFeeSnapshot | externalShippingCostSnapshot
  | lineAmountSnapshots
  deriving DecidableEq

namespace CompletenessField

def all : List CompletenessField :=
  [.commissionPercentSnapshot, .commissionVatPercentSnapshot, .deductShippingEnabledSnapshot,
    .shippingModeSnapshot, .fixedShippingFeeSnapshot, .externalShippingCostSnapshot,
    .lineAmountSnapshots]

def label : CompletenessField → String
  | .commissionPercentSnapshot => "commissionPercentSnapshot"
  | .commissionVatPercentSnapshot => "commissionVatPercentSnapshot"
  | .deductShippingEnabledSnapshot => "deductShippingEnabledSnapshot"
  | .shippingModeSnapshot => "shippingModeSnapshot"
  | .fixedShippingFeeSnapshot => "fixedShippingFeeSnapshot"
  | .externalShippingCostSnapshot => "externalShippingCostSnapshot"
  | .lineAmountSnapshots => "lineAmountSnapshots"

/-- What a line is said to miss. -/
def missing : CompletenessField → String
  | .fixedShippingFeeSnapshot => "fixedShippingFeeSnapshot for fixed shipping deduction"
  | .externalShippingCostSnapshot =>
      "external provider shipping cost snapshot or provider evidence"
  | .lineAmountSnapshots => "required line amount snapshots"
  | field => field.label

end CompletenessField

/-- A check: whether the value can be used, and where it was read. -/
structure SnapshotCheck where
  item : CompletenessField
  usable : Bool
  source : SnapshotSource

section Checks

variable (toNumber : String → Option ℚ) (read : SnapshotField → SnapshotValue)

def deductsShipping : Bool :=
  decide (normalizeBoolean (read .deductShippingEnabledSnapshot).value = some true)

def hasProviderEvidence : Bool :=
  [SnapshotField.shippingCostIdSnapshot, .shippingCostProviderSnapshot,
    .shippingCostSourceSnapshot].any fun field => hasSnapshotValue (read field).value

/-- The checks of a line of which `read` reads the values, in the order they are made. -/
def snapshotChecks : List SnapshotCheck :=
  let commissionPercent := read .commissionPercentSnapshot
  let commissionVatPercent := read .commissionVatPercentSnapshot
  let deductShippingEnabled := read .deductShippingEnabledSnapshot
  let shippingMode := read .shippingModeSnapshot
  let fixedShippingFee := read .fixedShippingFeeSnapshot
  let shippingCost := read .shippingCostSnapshot
  [⟨.commissionPercentSnapshot, (normalizePercent toNumber commissionPercent.value).isSome,
      commissionPercent.source⟩,
    ⟨.commissionVatPercentSnapshot,
      (normalizePercent toNumber commissionVatPercent.value).isSome, commissionVatPercent.source⟩,
    ⟨.deductShippingEnabledSnapshot, (normalizeBoolean deductShippingEnabled.value).isSome,
      deductShippingEnabled.source⟩,
    ⟨.shippingModeSnapshot, (normalizeShippingMode shippingMode.value).isSome,
      shippingMode.source⟩] ++
  (if deductsShipping read ∧ normalizeShippingMode shippingMode.value = some .fixed then
    [⟨.fixedShippingFeeSnapshot, (snapshotNumber toNumber fixedShippingFee.value).isSome,
      fixedShippingFee.source⟩]
  else []) ++
  if deductsShipping read ∧ normalizeShippingMode shippingMode.value = some .externalProvider then
    -- the evidence may be the ledger's, and only the source of the cost is looked at
    [⟨.externalShippingCostSnapshot,
      (snapshotNumber toNumber shippingCost.value).isSome && hasProviderEvidence read,
      shippingCost.source⟩]
  else []

end Checks

/-! ## The walk over the lines -/

def SettlementApprovalStatus.text : SettlementApprovalStatus → String
  | .draft => "DRAFT"
  | .approved => "APPROVED"
  | .cancelled => "CANCELLED"

section Walk

variable (toNumber : String → Option ℚ) (read : GuardLine → SnapshotField → SnapshotValue)

def missingMessage (line : GuardLine) (field : CompletenessField) : String :=
  s!"SettlementApprovalLine {line.id} is missing {field.missing}."

def lineBlockers (line : GuardLine) : List String :=
  (if isLedgerVoided line.financeLedgerEntry then
    [s!"SettlementApprovalLine {line.id} references a voided or superseded ledger row " ++
      "and cannot be used for financial execution."]
  else []) ++
  if lineRequiresPolicySnapshots line then
    ((snapshotChecks toNumber (read line)).filter (!·.usable)).map fun check =>
      missingMessage line check.item
  else []

/-- The different percentages that the execution lines report, in order. -/
def detectedRates (field : SnapshotField) (approval : GuardApproval) : List ℚ :=
  (approval.executionLines.filterMap fun line =>
    normalizePercent toNumber (read line field).value).dedup.insertionSort (· ≤ ·)

/-- The different shipping modes of the execution lines, by their names. -/
def detectedShippingModes (approval : GuardApproval) : List ShippingMode :=
  [.disabled, .externalProvider, .fixed].filter fun mode =>
    approval.executionLines.any fun line =>
      decide (normalizeShippingMode (read line .shippingModeSnapshot).value = some mode)

def guardBlockers (approval : GuardApproval) : List String :=
  (if approval.status = .approved then []
  else
    ["SettlementApproval status must be APPROVED before financial execution. Current status: " ++
      s!"{SettlementApprovalStatus.text approval.status}."]) ++
  approval.lines.flatMap (lineBlockers toNumber read) ++
  if 1 < (detectedRates toNumber read .commissionVatPercentSnapshot approval).length then
    ["Commission VAT rate is not uniform across settlement lines; Logo invoice creation is " ++
      "blocked until reviewed."]
  else []

/-- The line of each check that `p` holds of, in the order the checks are made. -/
def markedLineIds (p : SnapshotCheck → Bool) (approval : GuardApproval) : List Id :=
  approval.executionLines.flatMap fun line =>
    ((snapshotChecks toNumber (read line)).filter p).map fun _ => line.id

def SnapshotCheck.resolvedFromLedger (check : SnapshotCheck) : Bool :=
  check.usable && decide (check.source = .ledger)

def missingLineIds (item : CompletenessField) : GuardApproval → List Id :=
  markedLineIds toNumber read fun check => decide (check.item = item) && !check.usable

end Walk

/-! ## The guards -/

structure SnapshotCompletenessItem where
  present : Bool
  missingLineIds : List Id
  resolvedFromLedgerLineIds : List Id

structure SettlementExecutionSnapshotGuardDto where
  blockers : List String
  warnings : List String
  settlementApprovalStatus : Option SettlementApprovalStatus
  lineCount : ℕ
  executionLineCount : ℕ
  snapshotCompleteness : CompletenessField → SnapshotCompletenessItem
  detectedCommissionRates : List ℚ
  detectedCommissionVatRates : List ℚ
  detectedShippingModes : List ShippingMode

def SettlementExecutionSnapshotGuardDto.ok (dto : SettlementExecutionSnapshotGuardDto) : Bool :=
  dto.blockers.isEmpty

def mustExist : String := "SettlementApproval must exist before financial execution."

variable (toNumber : String → Option ℚ)

def buildStrictExecutionSnapshotGuard :
    Option GuardApproval → SettlementExecutionSnapshotGuardDto
  | none => ⟨[mustExist], [], none, 0, 0, fun _ => ⟨true, [], []⟩, [], [], []⟩
  | some approval =>
      { blockers := (guardBlockers toNumber readLineValue approval).eraseDups
        warnings := []
        settlementApprovalStatus := some approval.status
        lineCount := approval.lines.length
        executionLineCount := approval.executionLines.length
        snapshotCompleteness := fun item =>
          let missing := missingLineIds toNumber readLineValue item approval
          ⟨missing.isEmpty, missing, []⟩
        detectedCommissionRates :=
          detectedRates toNumber readLineValue .commissionPercentSnapshot approval
        detectedCommissionVatRates :=
          detectedRates toNumber readLineValue .commissionVatPercentSnapshot approval
        detectedShippingModes := detectedShippingModes readLineValue approval }

/-- The two arrays of `EMPTY_COMPLETENESS_ITEM`, which every item of every report refers to. -/
structure SharedLineIds where
  missingLineIds : List Id
  resolvedFromLedgerLineIds : List Id

def SharedLineIds.empty : SharedLineIds := ⟨[], []⟩

/-- The arrays after the lines of an approval have been marked in them. -/
def SharedLineIds.mark (shared : SharedLineIds) (approval : GuardApproval) : SharedLineIds where
  missingLineIds := shared.missingLineIds ++
    markedLineIds toNumber readSnapshotValue (!·.usable) approval
  resolvedFromLedgerLineIds := shared.resolvedFromLedgerLineIds ++
    markedLineIds toNumber readSnapshotValue SnapshotCheck.resolvedFromLedger approval

def ledgerWarning (item : CompletenessField) (count : ℕ) : String :=
  s!"{item.label} was resolved from linked FinanceLedgerEntry for {count} settlement line(s); " ++
    "execution must persist a request snapshot before provider calls."

def ledgerWarnings (items : CompletenessField → SnapshotCompletenessItem) : List String :=
  (CompletenessField.all.filter fun item => !(items item).resolvedFromLedgerLineIds.isEmpty).map
    fun item => ledgerWarning item (items item).resolvedFromLedgerLineIds.length

def validateSettlementApprovalExecutionSnapshots (shared : SharedLineIds) :
    Option GuardApproval → SettlementExecutionSnapshotGuardDto × SharedLineIds
  | none => (⟨[mustExist], [], none, 0, 0,
      fun _ => ⟨false, shared.missingLineIds, shared.resolvedFromLedgerLineIds⟩, [], [], []⟩,
      shared)
  | some approval =>
      let marked := shared.mark toNumber approval
      let items := fun item => ⟨(missingLineIds toNumber readSnapshotValue item approval).isEmpty,
        marked.missingLineIds, marked.resolvedFromLedgerLineIds⟩
      ({ blockers := (guardBlockers toNumber readSnapshotValue approval).eraseDups
         warnings := (ledgerWarnings items).eraseDups
         settlementApprovalStatus := some approval.status
         lineCount := approval.lines.length
         executionLineCount := approval.executionLines.length
         snapshotCompleteness := items
         detectedCommissionRates :=
           detectedRates toNumber readSnapshotValue .commissionPercentSnapshot approval
         detectedCommissionVatRates :=
           detectedRates toNumber readSnapshotValue .commissionVatPercentSnapshot approval
         detectedShippingModes := detectedShippingModes readSnapshotValue approval }, marked)

end VendorDashboard.Finance.ExecutionSnapshots

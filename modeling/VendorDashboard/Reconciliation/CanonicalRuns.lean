import VendorDashboard.Framework.Interleaving
import VendorDashboard.Framework.Table
import VendorDashboard.Finance.Schema
import Mathlib.Algebra.Order.Floor.Ring
import Mathlib.Data.List.Sort
import Mathlib.Data.Rat.Floor

/-!
# Canonical reconciliation runs

`runCanonicalReconciliation` over its two locks: `inMemoryCanonicalRunActive`, a variable of the
operating system process, and the row with status `RUNNING`.  A call checks the variable, reads the
running row, sets the variable and inserts its own row; the scan of the orders and the final update
follow, and the variable is cleared at the end.

An instance is an operating system process, and calls run in any number of them.  When one crashes,
its calls stop where they are and its memory is lost; `epoch` counts the crashes.  The candidates
and what `repairOrder` and `inspectOrderDryRun` find come from outside.

`holder` and `host` of a row and the call in `active` are not stored by the program: they record who
inserted the row, in which instance, and who set the variable.
-/

namespace VendorDashboard.Reconciliation

open Finance (Id Instant)
open Interleaving Table

inductive CanonicalReconciliationRunMode
  | dryRun | repair
  deriving DecidableEq

inductive CanonicalReconciliationRunStatus
  | running | completed | failed | blocked
  deriving DecidableEq

structure WouldRepair where
  order : ℕ
  fulfillment : ℕ
  refunds : ℕ
  returns : ℕ
  cancellations : ℕ
  signals : ℕ
  ledgers : ℕ
  financeEvents : ℕ
  deriving DecidableEq

structure CanonicalReconciliationOrderDetail where
  shopifyOrderId : String
  /-- The status is `scanned`, not `failed`. -/
  scanned : Bool
  wouldRepair : WouldRepair
  actions : List String
  errors : List String
  deriving DecidableEq

structure CanonicalReconciliationError where
  shopifyOrderId : Option String
  message : String
  deriving DecidableEq

def emptyOrderDetail (shopifyOrderId : String) : CanonicalReconciliationOrderDetail :=
  ⟨shopifyOrderId, true, ⟨0, 0, 0, 0, 0, 0, 0, 0⟩, [], []⟩

/-- The columns that count what a run found. -/
structure RepairSummary where
  ordersScanned : ℕ
  wouldRepairOrders : ℕ
  wouldRepairFulfillment : ℕ
  wouldRepairRefunds : ℕ
  wouldRepairReturns : ℕ
  wouldRepairCancellations : ℕ
  wouldCreateSignals : ℕ
  wouldRepairLedgers : ℕ
  wouldRepairFinanceEvents : ℕ
  deriving DecidableEq

def summarizeRepairOpportunities (details : List CanonicalReconciliationOrderDetail) :
    RepairSummary where
  ordersScanned := (details.filter (·.scanned)).length
  wouldRepairOrders := (details.map (·.wouldRepair.order)).sum
  wouldRepairFulfillment := (details.map (·.wouldRepair.fulfillment)).sum
  wouldRepairRefunds := (details.map (·.wouldRepair.refunds)).sum
  wouldRepairReturns := (details.map (·.wouldRepair.returns)).sum
  wouldRepairCancellations := (details.map (·.wouldRepair.cancellations)).sum
  wouldCreateSignals := (details.map (·.wouldRepair.signals)).sum
  wouldRepairLedgers := (details.map (·.wouldRepair.ledgers)).sum
  wouldRepairFinanceEvents := (details.map (·.wouldRepair.financeEvents)).sum

def countRepairOpportunities (summary : RepairSummary) : ℕ :=
  summary.wouldRepairOrders + summary.wouldRepairFulfillment + summary.wouldRepairRefunds +
    summary.wouldRepairReturns + summary.wouldRepairCancellations

structure CanonicalReconciliationRun where
  id : Id
  mode : CanonicalReconciliationRunMode
  status : CanonicalReconciliationRunStatus
  startedAt : Instant
  finishedAt : Option Instant
  durationMs : Option ℤ
  lookbackDays : ℤ
  orderLimit : ℤ
  repairOpportunities : ℕ
  summary : RepairSummary
  errors : List CanonicalReconciliationError
  perOrderDetails : List CanonicalReconciliationOrderDetail
  /-- The call that inserted the row. -/
  holder : ℕ
  /-- The instance that it runs in. -/
  host : ℕ

/-! ## The store -/

/-- The memory of an operating system process. -/
structure ReconciliationInstance where
  epoch : ℕ
  /-- The call that has set `inMemoryCanonicalRunActive`. -/
  active : Option ℕ

structure CanonicalStore where
  runs : List CanonicalReconciliationRun
  memory : ℕ → ReconciliationInstance

namespace CanonicalStore

variable (s : CanonicalStore)

/-- `findFirst` of the running row that was started last. -/
def findRunning : Option CanonicalReconciliationRun :=
  let running := s.runs.filter fun r => decide (r.status = .running)
  (running.insertionSort fun r r' => r'.startedAt ≤ r.startedAt).head?

def insert (r : CanonicalReconciliationRun) : Option CanonicalStore :=
  if r.id ∈ s.runs.map (·.id) then none else some { s with runs := s.runs ++ [r] }

def updateRun (id : Id) (f : CanonicalReconciliationRun → CanonicalReconciliationRun) :
    CanonicalStore :=
  { s with runs := updateWhere (fun r => decide (r.id = id)) f s.runs }

def setMemory (k : ℕ) (m : ReconciliationInstance) : CanonicalStore :=
  { s with memory := Function.update s.memory k m }

/-- Set `inMemoryCanonicalRunActive`, or clear it. -/
def setActive (k : ℕ) (active : Option ℕ) : CanonicalStore :=
  s.setMemory k { s.memory k with active }

def crash (k : ℕ) : CanonicalStore := s.setMemory k ⟨(s.memory k).epoch + 1, none⟩

end CanonicalStore

/-! ## A call -/

/-- The settings of the environment that a call falls back to. -/
structure CanonicalEnv where
  mode : CanonicalReconciliationRunMode
  lookbackDays : ℤ
  orderLimit : ℤ

structure CanonicalReconciliationRunOptions where
  mode : Option CanonicalReconciliationRunMode
  lookbackDays : Option ℚ
  limit : Option ℚ

structure CanonicalCall where
  /-- The instance that the call runs in. -/
  host : ℕ
  env : CanonicalEnv
  options : CanonicalReconciliationRunOptions

def toPositiveInteger (value : Option ℚ) (fallback : ℤ) : ℤ :=
  value.elim fallback fun v => if 0 < v then ⌊v⌋ else fallback

/-- An answer to a step of a call. -/
inductive CanonicalAnswer
  /-- A statement ran and was answered, or a step without a statement took place. -/
  | statement (now : Instant)
  /-- A row was inserted and the insert answered. -/
  | inserted (id : Id)
  /-- A row was inserted and the answer lost. -/
  | insertLost (id : Id)
  /-- A statement ran and its answer was lost. -/
  | lost (now : Instant)
  /-- A statement failed without effect. -/
  | failed
  | candidates (orders : Except String (List String))
  | scanned (detail : Except String CanonicalReconciliationOrderDetail)

/-- The results that a run collects. -/
structure ScanResults where
  details : List CanonicalReconciliationOrderDetail
  errors : List CanonicalReconciliationError
  deriving DecidableEq

inductive CanonicalPosition
  /-- The check of `inMemoryCanonicalRunActive`. -/
  | check
  | findRunning
  /-- The read has answered. -/
  | found (activeRun : Option Id)
  | insertBlocked (message : String)
  | insertRunning
  | findCandidates (run : Id)
  | scan (run : Id) (orders : List String) (results : ScanResults)
  | update (run : Id) (results : ScanResults)
  /-- The update in the `catch` clause. -/
  | updateFailed (run : Id) (message : String) (results : ScanResults)
  /-- The `finally` clause, and what the call then returns. -/
  | release (result : Except String Id)
  | ended (result : Except String Id)
  deriving DecidableEq

structure CanonicalProcess where
  call : CanonicalCall
  /-- The epoch of the instance when the call began, and the time. -/
  began : Option (ℕ × Instant)
  position : CanonicalPosition

namespace CanonicalProcess

def start (call : CanonicalCall) : CanonicalProcess := ⟨call, none, .check⟩

variable (p : CanonicalProcess)

def mode : CanonicalReconciliationRunMode := p.call.options.mode.getD p.call.env.mode

def lookbackDays : ℤ := toPositiveInteger p.call.options.lookbackDays p.call.env.lookbackDays

def limit : ℤ := toPositiveInteger p.call.options.limit p.call.env.orderLimit

def startedAt : Instant := p.began.elim 0 (·.2)

/-- A crash of the instance has stopped the call. -/
def Stopped (s : CanonicalStore) : Prop :=
  ∃ epoch ∈ p.began.map (·.1), epoch ≠ (s.memory p.call.host).epoch

instance (s : CanonicalStore) : Decidable (p.Stopped s) := inferInstanceAs (Decidable (∃ _ ∈ _, _))

/-- The row that call `i` inserts before it scans anything. -/
def newRun (i : ℕ) (id : Id) : CanonicalReconciliationRun where
  id
  mode := p.mode
  status := .running
  startedAt := p.startedAt
  finishedAt := none
  durationMs := none
  lookbackDays := p.lookbackDays
  orderLimit := p.limit
  repairOpportunities := 0
  summary := summarizeRepairOpportunities []
  errors := []
  perOrderDetails := []
  holder := i
  host := p.call.host

def blockedRun (i : ℕ) (id : Id) (message : String) : CanonicalReconciliationRun :=
  { p.newRun i id with
    status := .blocked
    finishedAt := some p.startedAt
    durationMs := some 0
    errors := [⟨none, message⟩] }

end CanonicalProcess

/-- The update after the scan. -/
def finishRun (results : ScanResults) (now : Instant) (r : CanonicalReconciliationRun) :
    CanonicalReconciliationRun :=
  let summary := summarizeRepairOpportunities results.details
  { r with
    status := if results.errors = [] then .completed else .failed
    finishedAt := some now
    durationMs := some (now - r.startedAt)
    repairOpportunities := countRepairOpportunities summary
    summary
    errors := results.errors
    perOrderDetails := results.details }

/-- The update in the `catch` clause. -/
def failRun (message : String) (results : ScanResults) (now : Instant)
    (r : CanonicalReconciliationRun) : CanonicalReconciliationRun :=
  { r with
    status := .failed
    finishedAt := some now
    durationMs := some (now - r.startedAt)
    errors := results.errors ++ [⟨none, message⟩]
    perOrderDetails := results.details }

def STATEMENT_FAILED : String := "The statement failed."

/-- The next order, or the update when there is none left. -/
def nextOrder (run : Id) (orders : List String) (results : ScanResults) : CanonicalPosition :=
  match orders with
  | [] => .update run results
  | _ :: _ => .scan run orders results

def ScanResults.add (results : ScanResults) (order : String) :
    Except String CanonicalReconciliationOrderDetail → ScanResults
  | .ok detail => { results with details := results.details ++ [detail] }
  | .error message =>
      ⟨results.details ++ [{ emptyOrderDetail order with scanned := false, errors := [message] }],
        results.errors ++ [⟨some order, message⟩]⟩

def CanonicalProcess.runPosition (i : ℕ) (answer : CanonicalAnswer) (s : CanonicalStore)
    (p : CanonicalProcess) : Option (CanonicalStore × CanonicalPosition) :=
  let k := p.call.host
  match p.position, answer with
  | .check, .statement _ =>
      some (s, if (s.memory k).active.isSome then
        .insertBlocked "Canonical reconciliation run already in progress." else .findRunning)
  | .findRunning, .statement _ => some (s, .found (s.findRunning.map (·.id)))
  | .found (some id), .statement _ =>
      some (s, .insertBlocked
        ("Canonical reconciliation run " ++ toString id ++ " already in progress."))
  | .found none, .statement _ => some (s.setActive k (some i), .insertRunning)
  | .insertBlocked message, .inserted id =>
      (s.insert (p.blockedRun i id message)).map fun s => (s, .ended (.ok id))
  | .insertBlocked message, .insertLost id =>
      (s.insert (p.blockedRun i id message)).map fun s => (s, .ended (.error STATEMENT_FAILED))
  | .insertRunning, .inserted id => (s.insert (p.newRun i id)).map fun s => (s, .findCandidates id)
  -- The insert stands before the `try`: when it throws, nothing clears the variable.
  | .insertRunning, .insertLost id =>
      (s.insert (p.newRun i id)).map fun s => (s, .ended (.error STATEMENT_FAILED))
  | .findRunning, .failed | .insertBlocked _, .failed | .insertRunning, .failed =>
      some (s, .ended (.error STATEMENT_FAILED))
  | .findCandidates run, .candidates (.ok orders) => some (s, nextOrder run orders ⟨[], []⟩)
  | .findCandidates run, .candidates (.error message) =>
      some (s, .updateFailed run message ⟨[], []⟩)
  | .scan run (order :: orders) results, .scanned detail =>
      some (s, nextOrder run orders (results.add order detail))
  | .update run results, .statement now =>
      some (s.updateRun run (finishRun results now), .release (.ok run))
  | .update run results, .lost now =>
      some (s.updateRun run (finishRun results now), .updateFailed run STATEMENT_FAILED results)
  | .update run results, .failed => some (s, .updateFailed run STATEMENT_FAILED results)
  | .updateFailed run message results, .statement now =>
      some (s.updateRun run (failRun message results now), .release (.ok run))
  | .updateFailed run message results, .lost now =>
      some (s.updateRun run (failRun message results now), .release (.error STATEMENT_FAILED))
  | .updateFailed .., .failed => some (s, .release (.error STATEMENT_FAILED))
  | .release result, .statement _ => some (s.setActive k none, .ended result)
  | _, _ => none

/-- The step of a call that no crash has stopped; its first step notes the epoch and the time. -/
def CanonicalProcess.run (i : ℕ) (answer : CanonicalAnswer) (s : CanonicalStore)
    (p : CanonicalProcess) : Option (CanonicalStore × CanonicalProcess) :=
  if p.Stopped s then none
  else
    (p.runPosition i answer s).map fun (s', position) =>
      (s', { p with
        position
        began := match p.began, answer with
          | none, .statement now => some ((s.memory p.call.host).epoch, now)
          | began, _ => began })

/-! ## The system -/

/-- An instance crashes. -/
inductive CanonicalMove
  | crash (k : ℕ)

def canonicalProgram :
    Program CanonicalStore CanonicalProcess CanonicalCall CanonicalAnswer CanonicalMove where
  start := CanonicalProcess.start
  run := CanonicalProcess.run
  outside
    | .crash k, s => some (s.crash k)

/-- No call has run, and no instance has set its variable. -/
def CanonicalStore.New (s : CanonicalStore) : Prop :=
  s.runs = [] ∧ ∀ k, (s.memory k).active = none

abbrev CanonicalWorld := World CanonicalStore CanonicalProcess

end VendorDashboard.Reconciliation

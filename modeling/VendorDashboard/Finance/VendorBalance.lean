import VendorDashboard.Finance.Queries

/-!
# The vendor balance

A vendor's balance is the sum of its balance events: a debt is a negative event, an offset
taken from a payout is a positive one.  An offset whose payout batch was cancelled does not
count (`countsTowardsBalance`), so cancelling a batch gives the debt back without writing an
event.  `outstandingDebtMinor` is what the vendor still owes.
-/

namespace VendorDashboard.Finance

open Table Text Transaction

/-! ## Currency -/

def DEFAULT_FINANCE_CURRENCY : String := "TRY"

inductive FinanceCurrencyResolution
  | ok (currency : String) (usedDefault : Bool)
  | unsupported (unsupportedCurrency : String)

def resolveFinanceCurrency (inputCurrency : Option String) : FinanceCurrencyResolution :=
  let normalized := (inputCurrency.map fun c => toUpperCase (trim c)).getD ""
  if normalized = "" then .ok DEFAULT_FINANCE_CURRENCY true
  else if normalized = DEFAULT_FINANCE_CURRENCY then .ok DEFAULT_FINANCE_CURRENCY false
  else .unsupported normalized

def resolveSupportedCurrency (inputCurrency : Option String) : Except String String :=
  match resolveFinanceCurrency inputCurrency with
  | .ok currency _ => .ok currency
  | .unsupported c => .error ("Unsupported non-TRY vendor balance currency " ++ c ++ ".")

/-- The only supported currency is the default one. -/
lemma resolveSupportedCurrency_eq_ok {inputCurrency : Option String} {currency : String}
    (h : resolveSupportedCurrency inputCurrency = .ok currency) :
    currency = DEFAULT_FINANCE_CURRENCY := by
  unfold resolveSupportedCurrency resolveFinanceCurrency at h
  simp only at h
  split at h
  · rename_i c b heq
    have hc : currency = c := by simpa using h.symm
    subst hc
    split at heq
    · cases heq
      rfl
    · split at heq
      · cases heq
        rfl
      · cases heq
  · cases h

/-! ## The balance -/

structure VendorBalanceSummary where
  vendorId : Id
  currency : String
  balanceMinor : ℤ
  outstandingDebtMinor : ℤ

namespace FinanceDb

variable (db : FinanceDb)

/-- An offset counts unless its payout batch was cancelled; every other event counts. -/
def countsTowardsBalance (e : VendorBalanceEvent) : Bool :=
  !(decide (e.type = .vendorDebtOffset) &&
    (e.payoutBatchId.bind db.findBatch).any fun b => decide (b.status = .cancelled))

def balanceMinor (vendorId : Id) (currency : String) : ℤ :=
  total (fun e => decide (e.vendorId = vendorId) && decide (e.currency = currency) &&
    db.countsTowardsBalance e) (·.amountMinor) db.vendorBalanceEvent

def outstandingDebtMinor (vendorId : Id) (currency : String) : ℤ :=
  let balanceMinor := db.balanceMinor vendorId currency
  if balanceMinor < 0 then |balanceMinor| else 0

def getVendorBalanceSummary (vendorId : Id) (inputCurrency : Option String) :
    Except String VendorBalanceSummary := do
  let currency ← resolveSupportedCurrency inputCurrency
  pure { vendorId
         currency
         balanceMinor := db.balanceMinor vendorId currency
         outstandingDebtMinor := db.outstandingDebtMinor vendorId currency }

variable {db} in
/-- Without a currency the summary is in the default one. -/
lemma getVendorBalanceSummary_default (vendorId : Id) :
    db.getVendorBalanceSummary vendorId none = .ok
      ⟨vendorId, DEFAULT_FINANCE_CURRENCY, db.balanceMinor vendorId DEFAULT_FINANCE_CURRENCY,
        db.outstandingDebtMinor vendorId DEFAULT_FINANCE_CURRENCY⟩ := rfl

/-! ## Debts -/

/-- What `createVendorDebtForPaidRefund` reads of the refund. -/
structure PaidRefund where
  vendorId : Id
  refundRecordId : Id
  financeLedgerEntryId : Id
  refundAmount : ℚ
  commissionPercentSnapshot : Option ℚ
  commissionVatPercentSnapshot : Option ℚ
  currency : Option String

def refundDebtRow (id : Id) (input : PaidRefund) (amountMinor : ℤ) (currency : String) :
    VendorBalanceEvent where
  id
  vendorId := input.vendorId
  type := .vendorDebtCreated
  amountMinor := -amountMinor
  currency
  source := .shopifyRefund input.refundRecordId
  financeLedgerEntryId := some input.financeLedgerEntryId
  refundRecordId := some input.refundRecordId
  payoutBatchId := none
  financialCorrectionAuthority := none

def correctionDebtRow (id : Id) (authority : FinancialCorrectionAuthority) (amountMinor : ℤ)
    (currency : String) : VendorBalanceEvent where
  id
  vendorId := authority.vendorId
  type := .vendorDebtCreated
  amountMinor := -amountMinor
  currency
  source := .financialCorrection authority.id
  financeLedgerEntryId := none
  refundRecordId := none
  payoutBatchId := none
  financialCorrectionAuthority := some authority

def batchDebtOffsetRow (id vendorId payoutBatchId : Id) (amountMinor : ℤ) (currency : String) :
    VendorBalanceEvent where
  id
  vendorId
  type := .vendorDebtOffset
  amountMinor
  currency
  source := .payoutBatch payoutBatchId
  financeLedgerEntryId := none
  refundRecordId := none
  payoutBatchId := some payoutBatchId
  financialCorrectionAuthority := none

/-- The debt of a refund that arrived after its sale was paid, at most one for each vendor and
refund record. -/
def createVendorDebtForPaidRefund (id : Id) (input : PaidRefund) : Except String FinanceDb := do
  let currency ← resolveSupportedCurrency input.currency
  let refundOffset := calculateRefundOffsetAmounts input.refundAmount
    input.commissionPercentSnapshot input.commissionVatPercentSnapshot
  if refundOffset.vendorPayableReversalMinor ≤ 0 then pure db
  else if db.vendorBalanceEvent.any (fun e => decide (e.type = .vendorDebtCreated) &&
      decide (e.vendorId = input.vendorId) &&
      decide (e.source = .shopifyRefund input.refundRecordId)) then pure db
  else do
    let events ← insertRows VendorBalanceEvent.id db.vendorBalanceEvent
      [refundDebtRow id input refundOffset.vendorPayableReversalMinor currency]
      UNIQUE_CONSTRAINT_FAILED
    pure { db with vendorBalanceEvent := events }

/-- The debt of a financial correction to a paid sale: the exact signed delta it authorises. -/
def createVendorDebtForPaidFinancialCorrection (id : Id)
    (authority : FinancialCorrectionAuthority) (authorizedDebtMinor : ℤ) :
    Except String FinanceDb := do
  require (0 < authorizedDebtMinor)
    "Valid financial correction debt authority and positive exact delta are required."
  let currency ← resolveSupportedCurrency (some authority.currency)
  require (∀ e ∈ db.vendorBalanceEvent, e.source ≠ .financialCorrection authority.id)
    UNIQUE_CONSTRAINT_FAILED
  let events ← insertRows VendorBalanceEvent.id db.vendorBalanceEvent
    [correctionDebtRow id authority authorizedDebtMinor currency] UNIQUE_CONSTRAINT_FAILED
  pure { db with vendorBalanceEvent := events }

/-- The offset that a payout batch takes from the vendor's debt. -/
def createVendorDebtOffsetForPayoutBatch (id vendorId payoutBatchId : Id)
    (debtOffsetMinor : ℤ) (inputCurrency : Option String) : Except String FinanceDb := do
  if max debtOffsetMinor 0 ≤ 0 then pure db
  else do
    let currency ← resolveSupportedCurrency inputCurrency
    if db.vendorBalanceEvent.any (fun e => decide (e.type = .vendorDebtOffset) &&
        decide (e.source = .payoutBatch payoutBatchId)) then pure db
    else do
      let events ← insertRows VendorBalanceEvent.id db.vendorBalanceEvent
        [batchDebtOffsetRow id vendorId payoutBatchId (max debtOffsetMinor 0) currency]
        UNIQUE_CONSTRAINT_FAILED
      pure { db with vendorBalanceEvent := events }

/-! ## What a debt transaction writes -/

variable {db} {db' : FinanceDb}

lemma createVendorDebtForPaidRefund_ok {id : Id} {input : PaidRefund}
    (h : db.createVendorDebtForPaidRefund id input = .ok db') :
    db' = db ∨ ∃ amountMinor > 0,
      KeyUnique VendorBalanceEvent.id (db.vendorBalanceEvent ++
        [refundDebtRow id input amountMinor DEFAULT_FINANCE_CURRENCY]) ∧
      db' = { db with vendorBalanceEvent := db.vendorBalanceEvent ++
        [refundDebtRow id input amountMinor DEFAULT_FINANCE_CURRENCY] } := by
  unfold createVendorDebtForPaidRefund at h
  obtain ⟨currency, hc, h⟩ := bind_eq_ok.mp h
  obtain rfl := resolveSupportedCurrency_eq_ok hc
  dsimp only at h
  split at h
  · exact .inl (pure_eq_ok.mp h).symm
  · rename_i hpos
    split at h
    · exact .inl (pure_eq_ok.mp h).symm
    · simp only [bind_eq_ok, insertRows_eq_ok, pure_eq_ok] at h
      obtain ⟨_, ⟨hu, rfl⟩, rfl⟩ := h
      exact .inr ⟨_, by omega, hu, rfl⟩

lemma createVendorDebtForPaidFinancialCorrection_ok {id : Id}
    {authority : FinancialCorrectionAuthority} {authorizedDebtMinor : ℤ}
    (h : db.createVendorDebtForPaidFinancialCorrection id authority authorizedDebtMinor = .ok db') :
    0 < authorizedDebtMinor ∧
      KeyUnique VendorBalanceEvent.id (db.vendorBalanceEvent ++
        [correctionDebtRow id authority authorizedDebtMinor DEFAULT_FINANCE_CURRENCY]) ∧
      db' = { db with vendorBalanceEvent := db.vendorBalanceEvent ++
        [correctionDebtRow id authority authorizedDebtMinor DEFAULT_FINANCE_CURRENCY] } := by
  simp only [createVendorDebtForPaidFinancialCorrection, bind_eq_ok, require_eq_ok,
    insertRows_eq_ok, pure_eq_ok] at h
  obtain ⟨-, hpos, currency, hc, -, -, -, ⟨hu, rfl⟩, rfl⟩ := h
  obtain rfl := resolveSupportedCurrency_eq_ok hc
  exact ⟨hpos, hu, rfl⟩

/-- The offset of a batch without an earlier one is written exactly when it is positive. -/
lemma createVendorDebtOffsetForPayoutBatch_ok {id vendorId payoutBatchId : Id}
    {debtOffsetMinor : ℤ} {inputCurrency : Option String}
    (h : db.createVendorDebtOffsetForPayoutBatch id vendorId payoutBatchId debtOffsetMinor
      inputCurrency = .ok db') :
    (debtOffsetMinor ≤ 0 ∧ db' = db) ∨
      (0 < debtOffsetMinor ∧ db' = db ∧
        ∃ e ∈ db.vendorBalanceEvent, e.type = .vendorDebtOffset ∧
          e.source = .payoutBatch payoutBatchId) ∨
      (0 < debtOffsetMinor ∧
        KeyUnique VendorBalanceEvent.id (db.vendorBalanceEvent ++
          [batchDebtOffsetRow id vendorId payoutBatchId debtOffsetMinor
            DEFAULT_FINANCE_CURRENCY]) ∧
        db' = { db with vendorBalanceEvent := db.vendorBalanceEvent ++
          [batchDebtOffsetRow id vendorId payoutBatchId debtOffsetMinor
            DEFAULT_FINANCE_CURRENCY] }) := by
  unfold createVendorDebtOffsetForPayoutBatch at h
  split at h
  · exact .inl ⟨by omega, (pure_eq_ok.mp h).symm⟩
  · have hmax : max debtOffsetMinor 0 = debtOffsetMinor := by omega
    obtain ⟨currency, hc, h⟩ := bind_eq_ok.mp h
    obtain rfl := resolveSupportedCurrency_eq_ok hc
    split at h
    · rename_i hany
      rw [List.any_eq_true] at hany
      obtain ⟨e, he, hp⟩ := hany
      exact .inr (.inl ⟨by omega, (pure_eq_ok.mp h).symm, e, he, by simpa using hp⟩)
    · simp only [bind_eq_ok, insertRows_eq_ok, pure_eq_ok, hmax] at h
      obtain ⟨_, ⟨hu, rfl⟩, rfl⟩ := h
      exact .inr (.inr ⟨by omega, hu, rfl⟩)

end FinanceDb

end VendorDashboard.Finance

import VendorDashboard.Finance.Schema
import Mathlib.Algebra.Order.Round
import Mathlib.Data.Rat.Floor

/-!
# The three money formulas

* `calculateVendorPayout` — what a sale pays the vendor after commission, its VAT and shipping;
* `calculateRefundOffsetAmounts` — what a refund takes back from the vendor;
* `calculateVendorDebtOffset` — how much of a vendor's debt one payout recovers.

The source computes with doubles; the model computes the same expressions with exact rationals.
`Math.round` rounds to the nearest integer and a tie towards `+∞`, which is Mathlib's `round`.
-/

namespace VendorDashboard.Finance

/-! ## Sales -/

structure VendorFinanceProfileConfig where
  commissionPercent : ℚ
  commissionVatPercent : ℚ
  deductShippingEnabled : Bool
  shippingMode : ShippingMode
  fixedShippingFee : Option ℚ
  externalProviderShippingCost : Option ℚ
  externalProviderShippingVatAmount : Option ℚ
  settlementDelayDays : ℤ

def DEFAULT_VENDOR_FINANCIAL_PROFILE : VendorFinanceProfileConfig where
  commissionPercent := 10
  commissionVatPercent := 0
  deductShippingEnabled := false
  shippingMode := .disabled
  fixedShippingFee := none
  externalProviderShippingCost := none
  externalProviderShippingVatAmount := none
  settlementDelayDays := 21

structure PayoutCalculationResult where
  grossAmount : ℚ
  commission : ℚ
  commissionVat : ℚ
  shippingDeduction : ℚ
  refundImpact : ℚ
  estimatedPayout : ℚ

def clampMoney (value : ℚ) : ℚ := round (value * 100) / 100

def toMinorUnits (value : ℚ) : ℤ := round (value * 100)

@[simp] lemma toMinorUnits_div_hundred (n : ℤ) : toMinorUnits ((n : ℚ) / 100) = n := by
  unfold toMinorUnits
  rw [div_mul_cancel₀ _ (by norm_num : (100 : ℚ) ≠ 0), round_intCast]

/-- Whether a fulfilled sale is charged shipping under its profile. -/
def shippingApplied (fulfilled : Bool) (profile : VendorFinanceProfileConfig) : Bool :=
  profile.deductShippingEnabled && fulfilled &&
    match profile.shippingMode with
    | .fixed => decide (0 < profile.fixedShippingFee.getD 0)
    | .externalProvider => decide (0 < profile.externalProviderShippingCost.getD 0)
    | .disabled => false

def shippingDeduction (fulfilled : Bool) (profile : VendorFinanceProfileConfig) : ℚ :=
  if shippingApplied fulfilled profile then
    match profile.shippingMode with
    | .externalProvider =>
        clampMoney (profile.externalProviderShippingCost.getD 0 +
          clampMoney (profile.externalProviderShippingVatAmount.getD 0))
    | _ => clampMoney (profile.fixedShippingFee.getD 0)
  else 0

def calculateVendorPayout (grossAmount refundAmount : ℚ) (fulfilled : Bool)
    (profile : VendorFinanceProfileConfig) : PayoutCalculationResult :=
  let gross := clampMoney (max grossAmount 0)
  let refundImpact := clampMoney (max refundAmount 0)
  let commission := clampMoney (gross * (max profile.commissionPercent 0 / 100))
  let commissionVat := clampMoney (commission * (max profile.commissionVatPercent 0 / 100))
  let shipping := shippingDeduction fulfilled profile
  { grossAmount := gross
    commission
    commissionVat
    shippingDeduction := shipping
    refundImpact
    estimatedPayout := clampMoney (gross - commission - commissionVat - shipping - refundImpact) }

/-! ## Refunds -/

structure RefundOffsetAmounts where
  refundMinor : ℤ
  commissionReversalMinor : ℤ
  commissionVatReversalMinor : ℤ
  vendorPayableReversalMinor : ℤ

def calculateRefundOffsetAmounts (refundAmount : ℚ)
    (commissionPercentSnapshot commissionVatPercentSnapshot : Option ℚ) : RefundOffsetAmounts :=
  let refundMinor := max (toMinorUnits refundAmount) 0
  let commissionPercent := max (commissionPercentSnapshot.getD 0) 0
  let commissionVatPercent := max (commissionVatPercentSnapshot.getD 0) 0
  let commissionReversalMinor := round (refundMinor * (commissionPercent / 100))
  let commissionVatReversalMinor := round (commissionReversalMinor * (commissionVatPercent / 100))
  { refundMinor
    commissionReversalMinor
    commissionVatReversalMinor
    vendorPayableReversalMinor :=
      max (refundMinor - commissionReversalMinor - commissionVatReversalMinor) 0 }

/-! ## Vendor debt -/

structure VendorDebtOffsetCalculation where
  grossPayableMinor : ℤ
  outstandingDebtMinor : ℤ
  debtOffsetMinor : ℤ
  netPayableMinor : ℤ
  remainingDebtMinor : ℤ

def calculateVendorDebtOffset (grossPayableMinor outstandingDebtMinor : ℤ) :
    VendorDebtOffsetCalculation :=
  let gross := max grossPayableMinor 0
  let outstanding := max outstandingDebtMinor 0
  let offset := min gross outstanding
  { grossPayableMinor := gross
    outstandingDebtMinor := outstanding
    debtOffsetMinor := offset
    netPayableMinor := max (gross - offset) 0
    remainingDebtMinor := max (outstanding - offset) 0 }

/-- The offset is between zero and both the payable and the debt. -/
lemma debtOffsetMinor_bounds (g o : ℤ) :
    0 ≤ (calculateVendorDebtOffset g o).debtOffsetMinor ∧
      (calculateVendorDebtOffset g o).debtOffsetMinor ≤ max g 0 ∧
      (calculateVendorDebtOffset g o).debtOffsetMinor ≤ max o 0 := by
  refine ⟨?_, min_le_left _ _, min_le_right _ _⟩
  exact le_min (le_max_right _ _) (le_max_right _ _)

lemma debtOffset_netPayableMinor (g o : ℤ) :
    (calculateVendorDebtOffset g o).netPayableMinor =
      max g 0 - (calculateVendorDebtOffset g o).debtOffsetMinor := by
  have h := (debtOffsetMinor_bounds g o).2.1
  simp only [calculateVendorDebtOffset] at h ⊢
  omega

end VendorDashboard.Finance

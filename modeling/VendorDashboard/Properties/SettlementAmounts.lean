import VendorDashboard.Finance.PayoutEligibility
import VendorDashboard.Finance.SettlementDraft

/-!
# The amounts of settlement lines

What `buildLine` charges and reverses, in minor units (`buildLine_sale`, `buildLine_refund`), and
from it two accounts: a refund reverses the commission of its sale, and the totals of a settlement
are those of its lines.

Both hold up to two clamps.  A sale with a negative amount pays as one of zero, but keeps its amount
in the gross; and a refund whose commission and VAT exceed it takes nothing back.
-/

namespace VendorDashboard.Finance

open Table
open FinanceDb (settlementApprovalLineRow)

/-! ## Rounding -/

/-- Rounding each part changes the sum by at most a half for each. -/
lemma abs_sum_round_sub_le (l : List ℚ) :
    |(((l.map round).sum : ℤ) : ℚ) - l.sum| ≤ l.length / 2 := by
  induction l with
  | nil => simp
  | cons x l ih =>
      have hx := abs_sub_round x
      rw [abs_sub_comm] at hx
      rw [List.map_cons, List.sum_cons, List.sum_cons, List.length_cons]
      simp only [Int.cast_add, Nat.cast_add, Nat.cast_one]
      have hsplit : ((round x : ℤ) : ℚ) + ((l.map round).sum : ℤ) - (x + l.sum) =
          ((round x : ℤ) - x) + (((l.map round).sum : ℤ) - l.sum) := by ring
      rw [hsplit]
      calc |((round x : ℤ) : ℚ) - x + (((l.map round).sum : ℤ) - l.sum)|
          ≤ |((round x : ℤ) : ℚ) - x| + |(((l.map round).sum : ℤ) : ℚ) - l.sum| := abs_add_le _ _
        _ ≤ 1 / 2 + l.length / 2 := add_le_add hx ih
        _ = (l.length + 1) / 2 := by ring

/-- What rounded parts differ from the rounded whole. -/
lemma abs_round_sub_sum_round_le (l : List ℚ) (x : ℚ) :
    |(round x : ℚ) - ((l.map round).sum : ℤ)| ≤ (l.length + 1) / 2 + |x - l.sum| := by
  have hx := abs_sub_round x
  rw [abs_sub_comm] at hx
  have hl := abs_sum_round_sub_le l
  rw [abs_sub_comm] at hl
  have hsplit : (round x : ℚ) - ((l.map round).sum : ℤ) =
      ((round x : ℚ) - x) + (x - l.sum) + (l.sum - ((l.map round).sum : ℤ)) := by ring
  rw [hsplit]
  calc |(round x : ℚ) - x + (x - l.sum) + (l.sum - ((l.map round).sum : ℤ))|
      ≤ |(round x : ℚ) - x| + |x - l.sum| + |l.sum - ((l.map round).sum : ℤ)| := abs_add_three _ _ _
    _ ≤ 1 / 2 + |x - l.sum| + l.length / 2 := by gcongr
    _ = (l.length + 1) / 2 + |x - l.sum| := by ring

lemma toMinorUnits_mono {x y : ℚ} (h : x ≤ y) : toMinorUnits x ≤ toMinorUnits y := by
  unfold toMinorUnits
  rw [round_eq, round_eq]
  refine Int.floor_mono ?_
  linarith

lemma toMinorUnits_max_zero (x : ℚ) : toMinorUnits (max x 0) = max (toMinorUnits x) 0 := by
  have hzero : toMinorUnits 0 = 0 := by
    unfold toMinorUnits
    simp
  rcases le_total x 0 with hx | hx
  · have hminor := toMinorUnits_mono hx
    rw [hzero] at hminor
    rw [max_eq_right hx, max_eq_right hminor, hzero]
  · have hminor := toMinorUnits_mono hx
    rw [hzero] at hminor
    rw [max_eq_left hx, max_eq_left hminor]

lemma clampMoney_eq (x : ℚ) : clampMoney x = (toMinorUnits x : ℚ) / 100 := rfl

/-- An amount that is in minor units already is not rounded. -/
lemma clampMoney_div_hundred (n : ℤ) : clampMoney ((n : ℚ) / 100) = (n : ℚ) / 100 := by
  rw [clampMoney_eq, toMinorUnits_div_hundred]

/-! ## Lines in minor units -/

/-- A percentage of an amount. -/
def chargeMinor (amountMinor : ℤ) (percent : ℚ) : ℤ :=
  round ((amountMinor : ℚ) * (max percent 0 / 100))

lemma clampMoney_charge (n : ℤ) (percent : ℚ) :
    clampMoney ((n : ℚ) / 100 * (max percent 0 / 100)) = (chargeMinor n percent : ℚ) / 100 := by
  unfold clampMoney chargeMinor
  congr 3
  ring

/-- Charging each part differs from charging the whole by a half for each, and by what the parts
miss of the whole. -/
lemma abs_chargeMinor_sub_sum_le (parts : List ℤ) (n : ℤ) (percent : ℚ) :
    |(chargeMinor n percent : ℚ) - ((parts.map (chargeMinor · percent)).sum : ℤ)| ≤
      (parts.length + 1) / 2 + |(n : ℚ) - (parts.sum : ℤ)| * (max percent 0 / 100) := by
  have hrate : 0 ≤ max percent 0 / 100 := by positivity
  have hsum : (parts.map fun k : ℤ => (k : ℚ) * (max percent 0 / 100)).sum =
      ((parts.sum : ℤ) : ℚ) * (max percent 0 / 100) := by
    induction parts with
    | nil => simp
    | cons k parts ih =>
        rw [List.map_cons, List.sum_cons, List.sum_cons, ih]
        simp only [Int.cast_add]
        ring
  have h := abs_round_sub_sum_round_le (parts.map fun k : ℤ => (k : ℚ) * (max percent 0 / 100))
    ((n : ℚ) * (max percent 0 / 100))
  rw [List.length_map, List.map_map, hsum, ← sub_mul, abs_mul, abs_of_nonneg hrate] at h
  exact h

lemma shippingDeduction_eq (fulfilled : Bool) (profile : VendorFinanceProfileConfig) :
    shippingDeduction fulfilled profile =
      (toMinorUnits (shippingDeduction fulfilled profile) : ℚ) / 100 := by
  unfold shippingDeduction
  split
  · split <;> rw [clampMoney_eq, toMinorUnits_div_hundred]
  · simp [toMinorUnits]

/-- **What a sale pays**, in minor units. -/
theorem calculateVendorPayout_minor (grossAmount : ℚ) (fulfilled : Bool)
    (profile : VendorFinanceProfileConfig) :
    let gross := max (toMinorUnits grossAmount) 0
    let commission := chargeMinor gross profile.commissionPercent
    let commissionVat := chargeMinor commission profile.commissionVatPercent
    let result := calculateVendorPayout grossAmount 0 fulfilled profile
    toMinorUnits result.commission = commission ∧
      toMinorUnits result.commissionVat = commissionVat ∧
      toMinorUnits result.estimatedPayout = gross - commission - commissionVat -
        toMinorUnits (shippingDeduction fulfilled profile) := by
  intro gross commission commissionVat result
  have hgross : clampMoney (max grossAmount 0) = (gross : ℚ) / 100 := by
    rw [clampMoney_eq, toMinorUnits_max_zero]
  have hcommission : result.commission = (commission : ℚ) / 100 := by
    show clampMoney (clampMoney (max grossAmount 0) * _) = _
    rw [hgross, clampMoney_charge]
  have hvat : result.commissionVat = (commissionVat : ℚ) / 100 := by
    show clampMoney (result.commission * _) = _
    rw [hcommission, clampMoney_charge]
  have hpayout : result.estimatedPayout = ((gross - commission - commissionVat -
      toMinorUnits (shippingDeduction fulfilled profile) : ℤ) : ℚ) / 100 := by
    show clampMoney (clampMoney (max grossAmount 0) - result.commission - result.commissionVat -
      shippingDeduction fulfilled profile - clampMoney (max 0 0)) = _
    have hzero : clampMoney (max (0 : ℚ) 0) = 0 := by simp [clampMoney]
    rw [hgross, hcommission, hvat, hzero, shippingDeduction_eq, toMinorUnits_div_hundred]
    refine Eq.trans (congrArg clampMoney ?_) (clampMoney_div_hundred _)
    push_cast
    ring
  rw [hcommission, hvat, hpayout]
  exact ⟨toMinorUnits_div_hundred _, toMinorUnits_div_hundred _, toMinorUnits_div_hundred _⟩

/-- **The two formulas agree**: a refund of an amount reverses what a sale of it is charged. -/
theorem calculateRefundOffsetAmounts_eq (amount : ℚ) (fulfilled : Bool)
    (profile : VendorFinanceProfileConfig) :
    let result := calculateVendorPayout amount 0 fulfilled profile
    let offset := calculateRefundOffsetAmounts amount (some profile.commissionPercent)
      (some profile.commissionVatPercent)
    offset.commissionReversalMinor = toMinorUnits result.commission ∧
      offset.commissionVatReversalMinor = toMinorUnits result.commissionVat := by
  intro result offset
  obtain ⟨hcommission, hvat, -⟩ := calculateVendorPayout_minor amount fulfilled profile
  rw [hcommission, hvat]
  exact ⟨rfl, rfl⟩

/-- The shipping that the sale line of a row is charged. -/
def saleShippingMinor (row : LedgerRow) : ℤ :=
  toMinorUnits (shippingDeduction (isFulfilledForSettlement row.vendorAllocation)
    (resolveCalculationProfile row.entry))

/-- The line of a sale, in minor units. -/
lemma buildLine_sale {row : LedgerRow} (h : row.entry.entryType ≠ .refund) :
    let profile := resolveCalculationProfile row.entry
    let line := buildLine row
    line.lineType = .sale ∧ line.amountMinor = toMinorUnits row.entry.amount ∧
      line.commissionMinor = chargeMinor (max line.amountMinor 0) profile.commissionPercent ∧
      line.commissionVatMinor = chargeMinor line.commissionMinor profile.commissionVatPercent ∧
      line.payableImpactMinor = max line.amountMinor 0 - line.commissionMinor -
        line.commissionVatMinor - saleShippingMinor row := by
  intro profile line
  obtain ⟨hcommission, hvat, hpayout⟩ := calculateVendorPayout_minor row.entry.amount
    (isFulfilledForSettlement row.vendorAllocation) profile
  have hline : line = _ := if_neg h
  rw [hline]
  dsimp only
  refine ⟨rfl, rfl, hcommission, ?_, ?_⟩
  · rw [hcommission]
    exact hvat
  · rw [hcommission, hvat]
    exact hpayout

/-- The line of a refund. -/
lemma buildLine_refund {row : LedgerRow} (h : row.entry.entryType = .refund) :
    let snapshots := resolveRefundCommissionSnapshot row
    let line := buildLine row
    line.lineType = .refund ∧ line.amountMinor = max (toMinorUnits row.entry.amount) 0 ∧
      line.commissionMinor = -chargeMinor line.amountMinor (snapshots.1.getD 0) ∧
      line.commissionVatMinor = -chargeMinor (-line.commissionMinor) (snapshots.2.getD 0) ∧
      line.payableImpactMinor =
        -max (line.amountMinor + line.commissionMinor + line.commissionVatMinor) 0 := by
  intro snapshots line
  have hline : line = _ := if_pos h
  rw [hline]
  dsimp only
  refine ⟨rfl, rfl, rfl, ?_, ?_⟩
  · rw [neg_neg]
    rfl
  · rw [← sub_eq_add_neg, ← sub_eq_add_neg]
    rfl

/-! ## A refund reverses its sale -/

/-- The refund row is one of the sale. -/
structure RefundOf (sale refund : LedgerRow) : Prop where
  saleType : sale.entry.entryType = .sale
  refundType : refund.entry.entryType = .refund
  related : (getRelatedSaleLedgerEntry refund).map (·.entry) = some sale.entry

/-- The sale has a commission snapshot, and the refund row has none of its own, or the same. -/
structure ChargedAlike (sale refund : LedgerRow) : Prop where
  charged : sale.entry.commissionPercentSnapshot.isSome = true
  commission : ∀ p ∈ refund.entry.commissionPercentSnapshot,
    sale.entry.commissionPercentSnapshot = some p
  commissionVat : ∀ p ∈ refund.entry.commissionVatPercentSnapshot,
    sale.entry.commissionVatPercentSnapshot.getD 0 = p

section Reversal

variable {sale refund : LedgerRow}

/-- The refund is calculated with the percentages of its sale. -/
lemma ChargedAlike.percentages (h : ChargedAlike sale refund) (hrefund : RefundOf sale refund) :
    (resolveRefundCommissionSnapshot refund).1.getD 0 =
        (resolveCalculationProfile sale.entry).commissionPercent ∧
      (resolveRefundCommissionSnapshot refund).2.getD 0 =
        (resolveCalculationProfile sale.entry).commissionVatPercent := by
  obtain ⟨p, hp⟩ := Option.isSome_iff_exists.mp h.charged
  obtain ⟨s, hs, hentry⟩ := Option.map_eq_some_iff.mp hrefund.related
  unfold resolveRefundCommissionSnapshot resolveCalculationProfile
  dsimp only
  rw [hp, hs, Option.bind_some, Option.bind_some, hentry, hp]
  constructor
  · cases hown : refund.entry.commissionPercentSnapshot with
    | none => rfl
    | some q =>
        have hsame := h.commission q hown
        rw [hp] at hsame
        exact (Option.some.inj hsame).symm
  · cases hown : refund.entry.commissionVatPercentSnapshot with
    | none => rfl
    | some q => exact (h.commissionVat q hown).symm

/-- What a refund line reverses, by the percentages of the sale. -/
lemma ChargedAlike.refund_line (h : ChargedAlike sale refund) (hrefund : RefundOf sale refund) :
    let profile := resolveCalculationProfile sale.entry
    let line := buildLine refund
    line.amountMinor = max (toMinorUnits refund.entry.amount) 0 ∧
      line.commissionMinor = -chargeMinor line.amountMinor profile.commissionPercent ∧
      line.commissionVatMinor = -chargeMinor (-line.commissionMinor)
        profile.commissionVatPercent ∧
      line.payableImpactMinor =
        -max (line.amountMinor + line.commissionMinor + line.commissionVatMinor) 0 := by
  obtain ⟨-, hline⟩ := buildLine_refund hrefund.refundType
  obtain ⟨hcommission, hvat⟩ := h.percentages hrefund
  rw [hcommission, hvat] at hline
  exact hline

lemma sale_line (h : sale.entry.entryType = .sale) :
    let profile := resolveCalculationProfile sale.entry
    let line := buildLine sale
    line.amountMinor = toMinorUnits sale.entry.amount ∧
      line.commissionMinor = chargeMinor (max line.amountMinor 0) profile.commissionPercent ∧
      line.commissionVatMinor = chargeMinor line.commissionMinor profile.commissionVatPercent ∧
      line.payableImpactMinor = max line.amountMinor 0 - line.commissionMinor -
        line.commissionVatMinor - saleShippingMinor sale := by
  have hsale : sale.entry.entryType ≠ .refund := by
    rw [h]
    exact EntryType.noConfusion
  exact (buildLine_sale hsale).2

/-- A refund of the whole sale reverses commission and VAT, and pays back all but the shipping,
unless commission and VAT exceed the sale. -/
lemma full_refund_reverses (h : RefundOf sale refund) (hcharged : ChargedAlike sale refund)
    (hamount : refund.entry.amount = sale.entry.amount) :
    (buildLine sale).commissionMinor + (buildLine refund).commissionMinor = 0 ∧
      (buildLine sale).commissionVatMinor + (buildLine refund).commissionVatMinor = 0 ∧
      (buildLine sale).payableImpactMinor + (buildLine refund).payableImpactMinor =
        -saleShippingMinor sale - max ((buildLine sale).commissionMinor +
          (buildLine sale).commissionVatMinor - max (buildLine sale).amountMinor 0) 0 := by
  obtain ⟨hsamount, hscommission, hsvat, hspayable⟩ := sale_line h.saleType
  obtain ⟨hramount, hrcommission, hrvat, hrpayable⟩ := hcharged.refund_line h
  have hamounts : (buildLine refund).amountMinor = max (buildLine sale).amountMinor 0 := by
    rw [hramount, hsamount, hamount]
  have hcommission : (buildLine refund).commissionMinor = -(buildLine sale).commissionMinor := by
    rw [hrcommission, hscommission, hamounts]
  have hvat : (buildLine refund).commissionVatMinor = -(buildLine sale).commissionVatMinor := by
    rw [hrvat, hsvat, hcommission, neg_neg]
  refine ⟨by omega, by omega, ?_⟩
  rw [hspayable, hrpayable, hamounts, hcommission, hvat]
  omega

/-- The amount has no more than two decimals. -/
def TwoDecimals (amount : ℚ) : Prop := (toMinorUnits amount : ℚ) = amount * 100

instance (amount : ℚ) : Decidable (TwoDecimals amount) := inferInstanceAs (Decidable (_ = _))

/-- The refunds split the amount of the sale. -/
structure Split (sale : LedgerRow) (refunds : List LedgerRow) : Prop where
  saleType : sale.entry.entryType = .sale
  refundOf : ∀ r ∈ refunds, RefundOf sale r
  charged : ∀ r ∈ refunds, ChargedAlike sale r
  positive : ∀ r ∈ refunds, 0 < r.entry.amount
  decimals : ∀ r ∈ refunds, TwoDecimals r.entry.amount
  saleDecimals : TwoDecimals sale.entry.amount
  sum_eq : (refunds.map (·.entry.amount)).sum = sale.entry.amount

lemma sum_map_neg {α : Type} (f : α → ℤ) (l : List α) :
    (l.map fun x => -f x).sum = -(l.map f).sum := by
  induction l with
  | nil => rfl
  | cons x l ih =>
      rw [List.map_cons, List.map_cons, List.sum_cons, List.sum_cons, ih]
      omega

variable {refunds : List LedgerRow}

lemma sum_amountMinor (hdecimals : ∀ r ∈ refunds, TwoDecimals r.entry.amount)
    (hpositive : ∀ r ∈ refunds, 0 < r.entry.amount) (hrefund : ∀ r ∈ refunds, RefundOf sale r) :
    (((refunds.map fun r => (buildLine r).amountMinor).sum : ℤ) : ℚ) =
      (refunds.map (·.entry.amount)).sum * 100 := by
  induction refunds with
  | nil => simp
  | cons r refunds ih =>
      have hline := (buildLine_refund (hrefund r List.mem_cons_self).refundType).2.1
      have hminor : ((toMinorUnits r.entry.amount : ℤ) : ℚ) = r.entry.amount * 100 :=
        hdecimals r List.mem_cons_self
      have hnonneg : 0 ≤ toMinorUnits r.entry.amount := by
        have hpos := hpositive r List.mem_cons_self
        have hcast : (0 : ℚ) ≤ (toMinorUnits r.entry.amount : ℚ) := by
          rw [hminor]
          positivity
        exact_mod_cast hcast
      rw [List.map_cons, List.sum_cons, List.map_cons, List.sum_cons, hline, max_eq_left hnonneg]
      simp only [Int.cast_add]
      rw [ih (fun x hx => hdecimals x (List.mem_cons_of_mem _ hx))
        (fun x hx => hpositive x (List.mem_cons_of_mem _ hx))
        (fun x hx => hrefund x (List.mem_cons_of_mem _ hx)), hminor]
      ring

/-- What the refunds of a split reverse differs from what the sale is charged by a half of a minor
unit for each rounding. -/
lemma split_reverses (h : Split sale refunds) :
    let rate := max (resolveCalculationProfile sale.entry).commissionVatPercent 0 / 100
    |(((buildLine sale).commissionMinor +
        (refunds.map fun r => (buildLine r).commissionMinor).sum : ℤ) : ℚ)| ≤
          (refunds.length + 1) / 2 ∧
      |(((buildLine sale).commissionVatMinor +
          (refunds.map fun r => (buildLine r).commissionVatMinor).sum : ℤ) : ℚ)| ≤
        (refunds.length + 1) / 2 * (1 + rate) := by
  intro rate
  set profile := resolveCalculationProfile sale.entry with hprofile
  have hrate : 0 ≤ rate := by positivity
  obtain ⟨hamount, hcommission, hvat, -⟩ := sale_line h.saleType
  rw [← hprofile] at hcommission hvat
  -- the refunds have the amount of the sale
  have hsum := sum_amountMinor h.decimals h.positive h.refundOf
  rw [h.sum_eq, ← h.saleDecimals, ← hamount] at hsum
  have hparts : (refunds.map fun r => (buildLine r).amountMinor).sum =
      (buildLine sale).amountMinor := by exact_mod_cast hsum
  have hnonneg : 0 ≤ (buildLine sale).amountMinor := by
    rw [← hparts]
    refine List.sum_nonneg fun x hx => ?_
    obtain ⟨r, hr, rfl⟩ := List.mem_map.mp hx
    rw [((h.charged r hr).refund_line (h.refundOf r hr)).1]
    exact le_max_right _ _
  rw [max_eq_left hnonneg] at hcommission
  have hreversed : (refunds.map fun r => (buildLine r).amountMinor).map
      (chargeMinor · profile.commissionPercent) =
        refunds.map fun r => -(buildLine r).commissionMinor := by
    rw [List.map_map]
    refine List.map_congr_left fun r hr => ?_
    rw [((h.charged r hr).refund_line (h.refundOf r hr)).2.1, neg_neg]
    rfl
  have hreversedVat : (refunds.map fun r => -(buildLine r).commissionMinor).map
      (chargeMinor · profile.commissionVatPercent) =
        refunds.map fun r => -(buildLine r).commissionVatMinor := by
    rw [List.map_map]
    refine List.map_congr_left fun r hr => ?_
    rw [((h.charged r hr).refund_line (h.refundOf r hr)).2.2.1, neg_neg]
    rfl
  have hbound := abs_chargeMinor_sub_sum_le (refunds.map fun r => (buildLine r).amountMinor)
    (buildLine sale).amountMinor profile.commissionPercent
  rw [hparts, sub_self, abs_zero, zero_mul, add_zero, List.length_map, hreversed, ← hcommission,
    sum_map_neg] at hbound
  have hboundVat := abs_chargeMinor_sub_sum_le (refunds.map fun r => -(buildLine r).commissionMinor)
    (buildLine sale).commissionMinor profile.commissionVatPercent
  rw [List.length_map, hreversedVat, ← hvat, sum_map_neg, sum_map_neg] at hboundVat
  simp only [Int.cast_add, Int.cast_neg] at hbound hboundVat ⊢
  rw [sub_neg_eq_add] at hbound hboundVat
  rw [sub_neg_eq_add] at hboundVat
  refine ⟨hbound, hboundVat.trans ?_⟩
  calc ((refunds.length : ℚ) + 1) / 2 +
        |((buildLine sale).commissionMinor : ℚ) +
          ((refunds.map fun r => (buildLine r).commissionMinor).sum : ℤ)| * rate
      ≤ ((refunds.length : ℚ) + 1) / 2 + ((refunds.length : ℚ) + 1) / 2 * rate := by gcongr
    _ = ((refunds.length : ℚ) + 1) / 2 * (1 + rate) := by ring

/-- **A refund reverses the commission of its sale.**  The two formulas agree on every amount; a
refund of the whole sale reverses commission and VAT exactly and pays back all but the shipping, less
what commission and VAT exceed the sale; and a split into `n` refunds reverses commission and VAT up
to a bound that is linear in `n`. -/
theorem refund_reverses_commission (sale : LedgerRow) :
    (∀ amount fulfilled profile, let result := calculateVendorPayout amount 0 fulfilled profile
      let offset := calculateRefundOffsetAmounts amount (some profile.commissionPercent)
        (some profile.commissionVatPercent)
      offset.commissionReversalMinor = toMinorUnits result.commission ∧
        offset.commissionVatReversalMinor = toMinorUnits result.commissionVat) ∧
    (∀ refund, RefundOf sale refund → ChargedAlike sale refund →
      refund.entry.amount = sale.entry.amount →
        (buildLine sale).commissionMinor + (buildLine refund).commissionMinor = 0 ∧
        (buildLine sale).commissionVatMinor + (buildLine refund).commissionVatMinor = 0 ∧
        (buildLine sale).payableImpactMinor + (buildLine refund).payableImpactMinor =
          -saleShippingMinor sale - max ((buildLine sale).commissionMinor +
            (buildLine sale).commissionVatMinor - max (buildLine sale).amountMinor 0) 0) ∧
    ∀ refunds, Split sale refunds →
      |(((buildLine sale).commissionMinor +
          (refunds.map fun r => (buildLine r).commissionMinor).sum : ℤ) : ℚ)| ≤
            (refunds.length + 1) / 2 ∧
        |(((buildLine sale).commissionVatMinor +
            (refunds.map fun r => (buildLine r).commissionVatMinor).sum : ℤ) : ℚ)| ≤
          (refunds.length + 1) / 2 *
            (1 + max (resolveCalculationProfile sale.entry).commissionVatPercent 0 / 100) :=
  ⟨calculateRefundOffsetAmounts_eq, fun _ h hcharged hamount => full_refund_reverses h hcharged hamount,
    fun _ h => split_reverses h⟩

end Reversal

/-! ## The totals of a settlement -/

/-- What a settlement line is built from. -/
inductive SettlementLineSource
  | row (row : LedgerRow)
  | adjustment (plan : AdjustmentPlan)

namespace SettlementLineSource

def line : SettlementLineSource → SettlementApprovalLineDraft
  | row r => buildLine r
  | adjustment p => buildRefundAdjustmentLine p

def shippingMinor : SettlementLineSource → ℤ
  | row r => if r.entry.entryType = .refund then 0 else saleShippingMinor r
  | adjustment _ => 0

def appliedMinor : SettlementLineSource → ℤ
  | row _ => 0
  | adjustment p => p.applyAmountMinor

/-- What the clamps add to the payable: the amount below zero of a sale, and less what commission
and VAT of a refund exceed it. -/
def clampMinor : SettlementLineSource → ℤ
  | row r =>
      if r.entry.entryType = .refund then
        -max (-((buildLine r).commissionMinor + (buildLine r).commissionVatMinor) -
          (buildLine r).amountMinor) 0
      else max (-(buildLine r).amountMinor) 0
  | adjustment _ => 0

def grossMinor (s : SettlementLineSource) : ℤ :=
  if s.line.lineType = .sale then s.line.amountMinor else 0

def refundMinor (s : SettlementLineSource) : ℤ :=
  if s.line.lineType = .refund then s.line.amountMinor else 0

/-- The account of one line. -/
lemma payableImpact_eq (s : SettlementLineSource) :
    s.line.payableImpactMinor = s.grossMinor - s.refundMinor - s.line.commissionMinor -
      s.line.commissionVatMinor - s.shippingMinor - s.appliedMinor + s.clampMinor := by
  unfold grossMinor refundMinor
  cases s with
  | row r =>
      by_cases hrefund : r.entry.entryType = .refund
      · obtain ⟨htype, -, -, -, hpayable⟩ := buildLine_refund hrefund
        simp only [line, shippingMinor, appliedMinor, clampMinor, hrefund, htype, if_true,
          reduceCtorEq, if_false]
        omega
      · obtain ⟨htype, -, -, -, hpayable⟩ := buildLine_sale hrefund
        simp only [line, shippingMinor, appliedMinor, clampMinor, hrefund, htype, if_true,
          reduceCtorEq, if_false]
        omega
  | adjustment p =>
      simp [line, shippingMinor, appliedMinor, clampMinor, buildRefundAdjustmentLine]

/-- What the payout side makes of the stored line. -/
def payoutAmounts (s : SettlementLineSource) (approvalId id : Id) : PayoutTotals :=
  approvedPayoutLineAmounts (settlementApprovalLineRow approvalId id s.line)

/-- The account of one stored line: the shipping that it is given back is what the sale was charged,
less its clamp. -/
lemma payoutAmounts_eq (s : SettlementLineSource) (approvalId id : Id) :
    (s.payoutAmounts approvalId id).grossAmountMinor = s.grossMinor ∧
      (s.payoutAmounts approvalId id).shippingDeductionAmountMinor =
        s.shippingMinor - (if s.line.lineType = .sale then s.clampMinor else 0) ∧
      (s.payoutAmounts approvalId id).grossAmountMinor -
          (s.payoutAmounts approvalId id).commissionAmountMinor -
          (s.payoutAmounts approvalId id).commissionVatAmountMinor -
          (s.payoutAmounts approvalId id).shippingDeductionAmountMinor -
          (s.payoutAmounts approvalId id).refundAmountMinor =
        s.line.payableImpactMinor - (if s.line.lineType = .refund then s.clampMinor else 0) := by
  have hpayable := s.payableImpact_eq
  unfold payoutAmounts approvedPayoutLineAmounts settlementApprovalLineRow grossMinor
  unfold grossMinor refundMinor at hpayable
  dsimp only
  cases s with
  | row r =>
      by_cases hrefund : r.entry.entryType = .refund
      · have htype : (row r).line.lineType = .refund := (buildLine_refund hrefund).1
        simp only [htype, reduceCtorEq, if_true, if_false] at hpayable ⊢
        simp only [shippingMinor, appliedMinor, hrefund, if_true] at hpayable ⊢
        exact ⟨trivial, by omega, by omega⟩
      · have htype : (row r).line.lineType = .sale := (buildLine_sale hrefund).1
        simp only [htype, reduceCtorEq, if_true, if_false] at hpayable ⊢
        simp only [appliedMinor] at hpayable
        exact ⟨trivial, by omega, by omega⟩
  | adjustment p => simp [line, shippingMinor, buildRefundAdjustmentLine]

end SettlementLineSource

section Totals

variable (sources : List SettlementLineSource)

/-- The totals, line by line. -/
lemma summarizeLines_eq :
    let lines := sources.map (·.line.monetary)
    (summarizeLines lines).grossSalesMinor = (sources.map (·.grossMinor)).sum ∧
      (summarizeLines lines).refundTotalMinor = (sources.map (·.refundMinor)).sum ∧
      (summarizeLines lines).netPayableMinor = (sources.map (·.grossMinor)).sum -
        (sources.map (·.refundMinor)).sum - (summarizeLines lines).commissionMinor -
        (summarizeLines lines).commissionVatMinor - (sources.map (·.shippingMinor)).sum -
        (sources.map (·.appliedMinor)).sum + (sources.map (·.clampMinor)).sum := by
  unfold summarizeLines
  induction sources with
  | nil => simp
  | cons s sources ih =>
      obtain ⟨hgross, hrefund, hnet⟩ := ih
      have hline := s.payableImpact_eq
      simp only [List.map_cons, List.sum_cons, total_cons, decide_eq_true_eq] at hgross hrefund hnet ⊢
      rw [hgross, hrefund, hnet]
      refine ⟨rfl, rfl, ?_⟩
      simp only [SettlementApprovalLineDraft.monetary]
      omega

/-- **The totals of a settlement are an exact account of its lines**, but for what the clamps add;
and so are the amounts that the payout reads back from each stored line. -/
theorem settlementTotals_exact (credits deductions : List ℤ) :
    let totals := summarizeSettlementTotals (sources.map (·.line.monetary)) credits deductions
    totals.netPayableMinor = totals.grossSalesMinor - totals.refundTotalMinor -
        totals.commissionMinor - totals.commissionVatMinor - (sources.map (·.shippingMinor)).sum -
        (sources.map (·.appliedMinor)).sum + totals.correctionCreditMinor -
        totals.correctionDeductionMinor + (sources.map (·.clampMinor)).sum ∧
      ∀ (s : SettlementLineSource) (approvalId id : Id),
        (s.payoutAmounts approvalId id).grossAmountMinor -
            (s.payoutAmounts approvalId id).commissionAmountMinor -
            (s.payoutAmounts approvalId id).commissionVatAmountMinor -
            (s.payoutAmounts approvalId id).shippingDeductionAmountMinor -
            (s.payoutAmounts approvalId id).refundAmountMinor =
          s.line.payableImpactMinor - (if s.line.lineType = .refund then s.clampMinor else 0) := by
  intro totals
  obtain ⟨hgross, hrefund, hnet⟩ := summarizeLines_eq sources
  refine ⟨?_, fun s approvalId id => (s.payoutAmounts_eq approvalId id).2.2⟩
  show (summarizeLines _).netPayableMinor + credits.sum - deductions.sum =
    (summarizeLines _).grossSalesMinor - (summarizeLines _).refundTotalMinor -
      (summarizeLines _).commissionMinor - (summarizeLines _).commissionVatMinor - _ - _ +
        credits.sum - deductions.sum + _
  rw [hnet, hgross, hrefund]
  omega

end Totals

/-! ## Sales that are not what they seem -/

section Samples

/-- A sale or refund of an allocation without shipping. -/
def sampleLedgerEntry (id : Id) (entryType : EntryType) (amount : ℚ)
    (commissionPercent commissionVatPercent : Option ℚ)
    (evidence : Option RefundEvidenceSnapshot) : FinanceLedgerEntry :=
  { id, vendorAllocationId := some 1, vendorId := 1, entryType, amount
    payoutStatus := .pending, settlementStatus := .payable, settlementHoldReason := none
    commissionPercentSnapshot := commissionPercent
    commissionVatPercentSnapshot := commissionVatPercent
    deductShippingEnabledSnapshot := none, shippingModeSnapshot := none
    fixedShippingFeeSnapshot := none, shippingCostSnapshot := none, shippingVatAmountSnapshot := none
    settlementDelayDaysSnapshot := 0, settledAt := none, voidedAt := none, createdAt := 0
    refundEvidenceSnapshot := evidence }

def sampleSaleRow (amount : ℚ) (commissionPercent commissionVatPercent : Option ℚ) : LedgerRow :=
  ⟨sampleLedgerEntry 1 .sale amount commissionPercent commissionVatPercent none, none, [], []⟩

/-- The refund row with identifier `id` of the sale, with no snapshot of its own. -/
def sampleRefundRow (sale : LedgerRow) (id : Id) (amount : ℚ) : LedgerRow where
  entry := sampleLedgerEntry id .refund amount none none
    (some ⟨id, "1", 1, id, id, 1, 1, true, amount, "TRY", 0⟩)
  vendorAllocation := some
    { allocation :=
        { id := 1, sourceShopifyOrderId := "1", sourceShopifyOrderNumber := "1", orderId := some 1
          orderCurrency := "TRY", orderCancelledAt := none, allocationStatus := .active
          cancelRefundReviewStatus := none, customerCancellationRequestItems := []
          fulfillmentStatus := "", shippingStatus := "", fulfilledAt := none
          outboundMethodSnapshot := none, outboundIntegrationProviderSnapshot := none
          deliveredObservation := none
          refundRecords := [⟨id, 1, id, "1", some amount, true, 0⟩], returnRecords := [] }
      financeEntries := [⟨sale.entry, [], []⟩] }
  settlementApprovalLines := []
  payoutBatchLines := []

lemma sampleRefundRow_refundOf (amount : ℚ) (p v : Option ℚ) (id : Id) (refunded : ℚ) :
    RefundOf (sampleSaleRow amount p v) (sampleRefundRow (sampleSaleRow amount p v) id refunded) where
  saleType := rfl
  refundType := rfl
  related := by
    simp [getRelatedSaleLedgerEntry, getExactRefundEvidence, exactRefundEvidence, sampleRefundRow,
      sampleSaleRow, sampleLedgerEntry]

/-- A sale without snapshots is charged the default commission, and its refund reverses none; and
where commission and VAT exceed the sale, the refund does not give back what they exceed it. -/
theorem refund_reverses_commission_fails :
    (∃ sale refund, RefundOf sale refund ∧ refund.entry.amount = sale.entry.amount ∧
      (buildLine sale).commissionMinor + (buildLine refund).commissionMinor = 1000) ∧
    ∃ sale refund, RefundOf sale refund ∧ ChargedAlike sale refund ∧
      refund.entry.amount = sale.entry.amount ∧ saleShippingMinor sale = 0 ∧
        (buildLine sale).payableImpactMinor + (buildLine refund).payableImpactMinor = -1 := by
  refine ⟨⟨_, _, sampleRefundRow_refundOf 100 none none 2 100, rfl, by decide +kernel⟩,
    ⟨_, _, sampleRefundRow_refundOf (1 / 100) (some 50) (some 50) 2 (1 / 100), ⟨rfl, ?_, ?_⟩, rfl,
      by decide +kernel, by decide +kernel⟩⟩
  · intro p hp
    cases hp
  · intro p hp
    cases hp

/-- A sale of 100.01 at 12.5 % and 20 % VAT, refunded whole and in two parts. -/
theorem refund_reverses_commission_sample :
    let sale := sampleSaleRow (10001 / 100) (some (25 / 2)) (some 20)
    let refund := sampleRefundRow sale
    ((buildLine sale).commissionMinor = 1250 ∧
      (buildLine sale).commissionMinor + (buildLine (refund 2 (10001 / 100))).commissionMinor = 0 ∧
      (buildLine sale).commissionVatMinor +
        (buildLine (refund 2 (10001 / 100))).commissionVatMinor = 0) ∧
    |(((buildLine sale).commissionMinor + ([refund 2 50, refund 3 (5001 / 100)].map
      fun r => (buildLine r).commissionMinor).sum : ℤ) : ℚ)| ≤ (2 + 1) / 2 := by
  intro sale refund
  have halike : ∀ id amount, ChargedAlike sale (refund id amount) := fun id amount =>
    ⟨rfl, (fun p hp => by cases hp), fun p hp => by cases hp⟩
  have hof : ∀ id amount, RefundOf sale (refund id amount) := fun id amount =>
    sampleRefundRow_refundOf _ _ _ id amount
  obtain ⟨hcommission, hvat, -⟩ := (refund_reverses_commission sale).2.1 _
    (hof 2 (10001 / 100)) (halike 2 (10001 / 100)) rfl
  have hsplit : Split sale [refund 2 50, refund 3 (5001 / 100)] :=
    { saleType := rfl
      refundOf := List.forall_mem_cons.mpr ⟨hof _ _, List.forall_mem_singleton.mpr (hof _ _)⟩
      charged := List.forall_mem_cons.mpr ⟨halike _ _, List.forall_mem_singleton.mpr (halike _ _)⟩
      positive := by decide +kernel
      decimals := by decide +kernel
      saleDecimals := by decide +kernel
      sum_eq := by decide +kernel }
  exact ⟨⟨by decide +kernel, hcommission, hvat⟩, ((refund_reverses_commission sale).2.2 _ hsplit).1⟩

/-- A sale of less than nothing stays in the gross and pays nothing; and commission and VAT of a
refund may exceed it. -/
theorem settlementTotals_exact_fails :
    (∃ sources : List SettlementLineSource,
      let totals := summarizeSettlementTotals (sources.map (·.line.monetary)) [] []
      totals.netPayableMinor = 0 ∧ totals.grossSalesMinor - totals.refundTotalMinor -
        totals.commissionMinor - totals.commissionVatMinor - (sources.map (·.shippingMinor)).sum -
          (sources.map (·.appliedMinor)).sum = -100) ∧
    ∃ s : SettlementLineSource, s.line.payableImpactMinor = 0 ∧ ∀ approvalId id,
      (s.payoutAmounts approvalId id).grossAmountMinor -
        (s.payoutAmounts approvalId id).commissionAmountMinor -
        (s.payoutAmounts approvalId id).commissionVatAmountMinor -
        (s.payoutAmounts approvalId id).shippingDeductionAmountMinor -
        (s.payoutAmounts approvalId id).refundAmountMinor = 20 := by
  refine ⟨⟨[.row (sampleSaleRow (-1) (some 10) (some 20))], by decide +kernel⟩,
    .row (sampleRefundRow (sampleSaleRow 1 (some 100) (some 20)) 2 1), by decide +kernel, ?_⟩
  intro approvalId id
  rw [(SettlementLineSource.payoutAmounts_eq _ approvalId id).2.2]
  decide +kernel

end Samples

end VendorDashboard.Finance

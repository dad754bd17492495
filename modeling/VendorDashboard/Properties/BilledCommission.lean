import VendorDashboard.Finance.CommissionInvoiceRequest
import VendorDashboard.Properties.FrozenSnapshots
import VendorDashboard.Properties.SettlementAmounts

/-!
# The invoice bills the commission of the settlement

The VAT of a settlement's commission is rounded line by line, and the invoice applies one rate to
the commission as a whole.  So the total of the invoice differs from what the settlement withheld by
at most half a minor unit for each line with a commission, where the lines carry the rate of the
invoice (`commissionInvoice_bills`).  Sale lines carry it because the strict guard accepts one rate
only.
-/

namespace VendorDashboard.Finance.CommissionInvoiceRequest

open Decimal StableJson Text Finance.ExecutionSnapshots Finance.SalesInvoiceSync

/-! ## Numbers through texts -/

/-- `Number` reads what `formatDecimal` writes. -/
def ReadsDecimals (toNumber : String → Option ℚ) : Prop :=
  ∀ n : ℤ, toNumber (formatDecimal (n / 10000)) = some ((n : ℚ) / 10000)

section Text

lemma isSpace_of_isDigit {c : Char} (h : isDigit c = true) : isSpace c = false := by
  unfold isDigit digitValue at h
  split at h
  · rename_i hc
    exact isSpace_of_digit hc
  · cases h

lemma isSpace_of_mem_fixedText {k n : ℕ} {c : Char} (h : c ∈ fixedText k n) :
    isSpace c = false := by
  unfold fixedText at h
  rcases List.mem_append.mp h with h | h
  · obtain ⟨d, -, rfl⟩ := List.mem_map.mp h
    exact isSpace_of_isDigit (isDigit_digitChar d)
  · split at h
    · cases h
    · rcases List.mem_cons.mp h with rfl | h
      · decide
      · obtain ⟨d, -, rfl⟩ := List.mem_map.mp h
        exact isSpace_of_isDigit (isDigit_digitChar d)

lemma trim_formatDecimal (x : ℚ) : trim (formatDecimal x) = formatDecimal x := by
  refine trim_eq_self fun c hc => ?_
  unfold formatDecimal at hc
  rw [String.toList_ofList] at hc
  rcases List.mem_append.mp hc with h | h
  · split at h
    · rw [List.mem_singleton.mp h]
      decide
    · cases h
  · exact isSpace_of_mem_fixedText h

lemma fixedText_head (k n : ℕ) : ∃ d cs, fixedText k n = digitChar d :: cs := by
  obtain ⟨d, ds, hdigits⟩ := List.exists_cons_of_ne_nil (decimalDigits_ne_nil (n / 10 ^ k))
  exact ⟨d, _, by rw [fixedText, hdigits]; rfl⟩

lemma formatDecimal_ne_empty (x : ℚ) : formatDecimal x ≠ "" := by
  intro h
  have hnil := congrArg String.toList h
  unfold formatDecimal at hnil
  rw [String.toList_ofList] at hnil
  obtain ⟨d, cs, hcs⟩ := fixedText_head 4 (round (x * 10000)).natAbs
  rw [hcs] at hnil
  simp at hnil

/-- What is formatted is read as itself, rounded to four decimals. -/
lemma readFixed_formatDecimal {x : ℚ} (hx : 0 ≤ x) :
    readFixed 4 (formatDecimal x).toList = some ((round (x * 10000) : ℤ) / 10000 : ℚ) := by
  have hround : 0 ≤ round (x * 10000) := by
    rw [round_eq]
    exact Int.floor_nonneg.mpr (by positivity)
  unfold formatDecimal
  rw [String.toList_ofList, if_neg (not_lt.mpr hround), List.nil_append, readFixed_fixedText]
  have hcast : (((round (x * 10000)).natAbs : ℕ) : ℚ) = (round (x * 10000) : ℤ) := by
    rw [← Int.cast_natCast, Int.natAbs_of_nonneg hround]
  rw [hcast]
  norm_num

lemma parseLogoDecimalNumber_ok {x y : ℚ} {field : String} {allowZero : Bool} {max : Option ℚ}
    (hx : 0 ≤ x)
    (h : parseLogoDecimalNumber (formatDecimal x) field allowZero max = .ok y) :
    y = (round (x * 10000) : ℤ) / 10000 := by
  unfold parseLogoDecimalNumber at h
  rw [trim_formatDecimal, readFixed_formatDecimal hx] at h
  dsimp only at h
  rcases ite_eq_iff.mp h with ⟨-, herror⟩ | ⟨-, h⟩
  · cases herror
  · rcases ite_eq_iff.mp h with ⟨-, herror⟩ | ⟨-, h⟩
    · cases herror
    · exact (Except.ok.inj h).symm

lemma readNumber_payloadNumber {toNumber : String → Option ℚ} (hnumber : ReadsDecimals toNumber)
    (n : ℤ) : readNumber toNumber (payloadNumber (n / 10000)) = some ((n : ℚ) / 10000) := by
  have hnumeral : payloadNumber (n / 10000) =
      .number (some ⟨_, trim_formatDecimal (n / 10000), formatDecimal_ne_empty _⟩) :=
    congrArg Json.number (dif_pos ⟨trim_formatDecimal _, formatDecimal_ne_empty _⟩)
  rw [hnumeral]
  exact hnumber n

end Text

/-! ## Built lines -/

/-- A line as it is written when a settlement is drafted, with what its ledger row has become. -/
structure BuiltLine where
  id : Id
  source : SettlementLineSource
  shippingCostSource : Option String
  shippingCostProvider : Option String
  ledger : Option GuardLedger

namespace BuiltLine

def snapshot (l : BuiltLine) : Json :=
  match l.source with
  | .row row =>
      if row.entry.entryType = .refund then refundLineSnapshot row
      else saleLineSnapshot row.entry l.shippingCostSource l.shippingCostProvider
  | .adjustment _ => .object []

def guardLine (l : BuiltLine) : GuardLine where
  id := l.id
  lineType := l.source.line.lineType
  commissionMinor := l.source.line.commissionMinor
  commissionVatMinor := l.source.line.commissionVatMinor
  sourceSnapshotJson := l.snapshot
  financeLedgerEntry := l.ledger

/-- The VAT column of the row has two decimals. -/
def HasVatColumn (l : BuiltLine) : Prop :=
  ∀ row, l.source = .row row → ∀ v, row.entry.commissionVatPercentSnapshot = some v →
    ∃ n : ℤ, v = n / 100

/-- If the line takes back commission, the VAT on it is at the rate. -/
def CarriesRate (l : BuiltLine) (taxRate : ℚ) : Prop :=
  ∀ row, l.source = .row row → row.entry.entryType = .refund →
    l.source.line.commissionMinor ≠ 0 →
      max ((resolveRefundCommissionSnapshot row).2.getD 0) 0 = taxRate

/-- What the rounding of its VAT can add or take away. -/
def roundingBound (l : BuiltLine) : ℚ := if l.source.line.commissionMinor = 0 then 0 else 1 / 2

end BuiltLine

/-- The approval has the lines and their totals. -/
structure SettlesLines (approval : RequestApproval) (lines : List BuiltLine) : Prop where
  guarded : approval.guarded.lines = lines.map BuiltLine.guardLine
  commissionMinor : approval.commissionMinor =
    (summarizeLines (lines.map (·.source.line.monetary))).commissionMinor
  commissionVatMinor : approval.commissionVatMinor =
    (summarizeLines (lines.map (·.source.line.monetary))).commissionVatMinor

section Lines

variable {l : BuiltLine} {taxRate : ℚ}

/-- A commission that is charged VAT at the rate is charged its VAT but for the rounding. -/
lemma abs_chargeMinor_sub_le (c : ℤ) (percent : ℚ) :
    |(chargeMinor c percent : ℚ) - c * max percent 0 / 100| ≤ if c = 0 then 0 else 1 / 2 := by
  have hcharge : chargeMinor c percent = round ((c : ℚ) * max percent 0 / 100) := by
    unfold chargeMinor
    rw [mul_div_assoc]
  by_cases hc : c = 0
  · rw [if_pos hc, hcharge, hc]
    simp
  · rw [if_neg hc, hcharge, abs_sub_comm]
    exact abs_sub_round _

/-- The VAT of a line at the rate. -/
lemma abs_vatMinor_sub_le (hsale : ∀ row, l.source = .row row → row.entry.entryType ≠ .refund →
      max (resolveCalculationProfile row.entry).commissionVatPercent 0 = taxRate)
    (hrefund : l.CarriesRate taxRate) :
    |(l.source.line.commissionVatMinor : ℚ) - l.source.line.commissionMinor * taxRate / 100| ≤
      l.roundingBound := by
  unfold BuiltLine.roundingBound
  cases hsource : l.source with
  | adjustment plan => simp [SettlementLineSource.line, buildRefundAdjustmentLine]
  | row row =>
      by_cases htype : row.entry.entryType = .refund
      · obtain ⟨-, -, -, hvat, -⟩ := buildLine_refund htype
        have hrate := hrefund row hsource htype
        rw [hsource] at hrate
        replace hrate : (buildLine row).commissionMinor ≠ 0 → _ := hrate
        show |((buildLine row).commissionVatMinor : ℚ) -
          (buildLine row).commissionMinor * taxRate / 100| ≤
            if (buildLine row).commissionMinor = 0 then 0 else 1 / 2
        rw [hvat]
        by_cases hzero : (buildLine row).commissionMinor = 0
        · rw [if_pos hzero, hzero]
          simp [chargeMinor]
        · have h := abs_chargeMinor_sub_le (-(buildLine row).commissionMinor)
            ((resolveRefundCommissionSnapshot row).2.getD 0)
          rw [hrate hzero, if_neg (neg_ne_zero.mpr hzero), ← abs_neg] at h
          rw [if_neg hzero]
          refine le_of_eq_of_le (congrArg abs ?_) h
          push_cast
          ring
      · obtain ⟨-, -, -, hvat, -⟩ := buildLine_sale htype
        show |((buildLine row).commissionVatMinor : ℚ) -
          (buildLine row).commissionMinor * taxRate / 100| ≤
            if (buildLine row).commissionMinor = 0 then 0 else 1 / 2
        rw [hvat, ← hsale row hsource htype]
        exact abs_chargeMinor_sub_le _ _

/-- The VAT of the lines at the rate. -/
lemma abs_sum_vatMinor_sub_le {lines : List BuiltLine} (hlines : ∀ l ∈ lines,
    |(l.source.line.commissionVatMinor : ℚ) - l.source.line.commissionMinor * taxRate / 100| ≤
      l.roundingBound) :
    |((summarizeLines (lines.map (·.source.line.monetary))).commissionVatMinor : ℚ) -
        (summarizeLines (lines.map (·.source.line.monetary))).commissionMinor * taxRate / 100| ≤
      (lines.map BuiltLine.roundingBound).sum := by
  unfold summarizeLines
  simp only
  induction lines with
  | nil => simp
  | cons l lines ih =>
      have hl := hlines l List.mem_cons_self
      have hrest := ih fun l' hl' => hlines l' (List.mem_cons_of_mem _ hl')
      simp only [List.map_cons, List.sum_cons, Int.cast_add]
      refine le_trans (le_of_eq_of_le (congrArg abs ?_) (abs_add_le _ _)) (add_le_add hl hrest)
      simp only [SettlementApprovalLineDraft.monetary]
      ring

lemma sum_roundingBound (lines : List BuiltLine) : (lines.map BuiltLine.roundingBound).sum =
    ((lines.filter fun l => decide (l.source.line.commissionMinor ≠ 0)).length : ℚ) / 2 := by
  induction lines with
  | nil => simp
  | cons l lines ih =>
      rw [List.map_cons, List.sum_cons, ih]
      unfold BuiltLine.roundingBound
      by_cases hzero : l.source.line.commissionMinor = 0
      · simp [hzero]
      · simp [hzero]
        ring

end Lines

/-! ## The rate of the sale lines -/

section Rate

variable {toNumber : String → Option ℚ} {l : BuiltLine} {row : LedgerRow}

lemma normalizePercent_decimalText (hnumber : ReadsDecimals toNumber) {v rate : ℚ}
    (hv : ∃ n : ℤ, v = n / 100)
    (h : normalizePercent toNumber (decimalText (some v)) = some rate) : v = rate ∧ 0 ≤ v := by
  obtain ⟨n, rfl⟩ := hv
  have hn : (n : ℚ) / 100 = ((n * 100 : ℤ) : ℚ) / 10000 := by
    push_cast
    ring
  have hvalue : snapshotNumber toNumber (decimalText (some ((n : ℚ) / 100))) =
      some ((n : ℚ) / 100) := by
    have hpresent : hasSnapshotValue (.string (formatDecimal ((n : ℚ) / 100))) = true :=
      decide_eq_true (formatDecimal_ne_empty _)
    refine (if_pos hpresent).trans ?_
    show toNumber (formatDecimal ((n : ℚ) / 100)) = _
    rw [hn]
    exact hnumber _
  unfold normalizePercent at h
  rw [hvalue, Option.bind_some] at h
  split at h
  · cases h
  · rename_i hbounds
    have hround : (n : ℚ) / 100 * 10000 = ((n * 100 : ℤ) : ℚ) := by
      push_cast
      ring
    rw [hround, round_intCast, ← hn] at h
    exact ⟨Option.some.inj h, not_lt.mp fun hneg => hbounds (Or.inl hneg)⟩

/-- A sale line that the strict guard accepts was charged VAT at the rate that the guard reads. -/
lemma saleLine_rate (hnumber : ReadsDecimals toNumber) (hcolumn : l.HasVatColumn) {rate : ℚ}
    (hsource : l.source = .row row) (htype : row.entry.entryType ≠ .refund)
    (hcomplete : TermsComplete toNumber (readLineValue l.guardLine))
    (hrate : normalizePercent toNumber
      (readLineValue l.guardLine .commissionVatPercentSnapshot).value = some rate) :
    max (resolveCalculationProfile row.entry).commissionVatPercent 0 = rate := by
  have hsnapshot : l.guardLine.sourceSnapshotJson =
      saleLineSnapshot row.entry l.shippingCostSource l.shippingCostProvider := by
    show l.snapshot = _
    unfold BuiltLine.snapshot
    rw [hsource]
    exact if_neg htype
  have hread : ∀ field, (readLineValue l.guardLine field).value =
      ((saleLineSnapshot row.entry l.shippingCostSource l.shippingCostProvider).field?
        field.name).getD .null := by
    intro field
    rw [← hsnapshot]
    rfl
  have hpercent : (readLineValue l.guardLine .commissionPercentSnapshot).value =
      decimalText row.entry.commissionPercentSnapshot := hread _
  have hvat : (readLineValue l.guardLine .commissionVatPercentSnapshot).value =
      decimalText row.entry.commissionVatPercentSnapshot := hread _
  have hsome := hcomplete.commissionPercent
  rw [hpercent] at hsome
  rw [hvat] at hrate
  unfold resolveCalculationProfile
  cases hp : row.entry.commissionPercentSnapshot with
  | none =>
      rw [hp] at hsome
      cases hsome
  | some p =>
      cases hv : row.entry.commissionVatPercentSnapshot with
      | none =>
          rw [hv] at hrate
          cases hrate
      | some v =>
          rw [hv] at hrate
          obtain ⟨rfl, hnonneg⟩ := normalizePercent_decimalText hnumber (hcolumn row hsource v hv)
            hrate
          exact max_eq_left hnonneg

end Rate

/-! ## The request -/

section Request

variable {toNumber : String → Option ℚ} {toTurkishLowerCase : String → String}
  {approval : RequestApproval}

lemma except_bind_ok {α β : Type} {x : Except String α} {f : α → Except String β} {b : β}
    (h : x >>= f = .ok b) : ∃ a, x = .ok a ∧ f a = .ok b := by
  cases x with
  | error message => cases h
  | ok a => exact ⟨a, rfl, h⟩

/-- A request that is ready. -/
lemma request_ready {json : Json}
    (h : buildSettlementLogoCommissionInvoiceRequestSnapshot toNumber toTurkishLowerCase
      (some approval) = .ok (.ready json)) :
    ∃ rate isPerson price taxRate,
      Frozen toNumber readLineValue approval.guarded ∧ 0 < approval.commissionMinor ∧
      detectedRates toNumber readLineValue .commissionVatPercentSnapshot approval.guarded = [rate] ∧
      parseLogoDecimalNumber (formatDecimal (minorToMajor approval.commissionMinor))
        "commissionAmount" false none = .ok price ∧
      parseLogoDecimalNumber (formatDecimal rate) "vatRate" true (some 100) = .ok taxRate ∧
      json = .object [("logoPayload", invoicePayload isPerson price taxRate)] := by
  unfold buildSettlementLogoCommissionInvoiceRequestSnapshot at h
  dsimp only at h
  rcases ite_eq_iff.mp h with ⟨-, hblocked⟩ | ⟨hnot, h⟩
  · cases Except.ok.inj hblocked
  · have hblockers := not_not.mp hnot
    unfold requestBlockers at hblockers
    simp only [List.append_eq_nil_iff] at hblockers
    obtain ⟨⟨⟨-, -⟩, hcommission⟩, hguard⟩ := hblockers
    have hpositive : 0 < approval.commissionMinor := by
      by_contra hle
      rw [if_pos (not_lt.mp hle)] at hcommission
      cases hcommission
    have hfrozen : Frozen toNumber readLineValue approval.guarded :=
      guardBlockers_eq_nil.mp (eraseDups_eq_nil.mp hguard)
    split at h
    · rename_i billing rate hbilling hrates
      obtain ⟨payload, hpayload, hready⟩ := except_bind_ok h
      obtain ⟨isPerson, -, hrest⟩ := except_bind_ok hpayload
      obtain ⟨price, hprice, hrest⟩ := except_bind_ok hrest
      obtain ⟨taxRate, htax, hrest⟩ := except_bind_ok hrest
      obtain rfl := Except.ok.inj hrest
      obtain rfl := RequestSnapshotResult.ready.inj (Except.ok.inj hready)
      exact ⟨rate, isPerson, price, taxRate, hfrozen, hpositive, hrates, hprice, htax, rfl⟩
    · cases Except.ok.inj h

/-- The one rate is that of every execution line, and has four decimals. -/
lemma detectedRates_eq_singleton {rate : ℚ}
    (hfrozen : Frozen toNumber readLineValue approval.guarded)
    (h : detectedRates toNumber readLineValue .commissionVatPercentSnapshot approval.guarded =
      [rate]) :
    (∀ line ∈ approval.guarded.executionLines, normalizePercent toNumber
      (readLineValue line .commissionVatPercentSnapshot).value = some rate) ∧
      0 ≤ rate ∧ ∃ n : ℤ, rate = n / 10000 := by
  have hmem : ∀ x, x ∈ detectedRates toNumber readLineValue .commissionVatPercentSnapshot
      approval.guarded ↔ ∃ line ∈ approval.guarded.executionLines, normalizePercent toNumber
        (readLineValue line .commissionVatPercentSnapshot).value = some x := by
    intro x
    unfold detectedRates
    rw [List.mem_insertionSort, List.mem_dedup, List.mem_filterMap]
  rw [h] at hmem
  refine ⟨fun line hline => ?_, ?_⟩
  · obtain ⟨x, hx⟩ := Option.isSome_iff_exists.mp (hfrozen.complete line hline).commissionVatPercent
    rw [hx, List.mem_singleton.mp ((hmem x).mpr ⟨line, hline, hx⟩)]
  · obtain ⟨line, -, hrate⟩ := (hmem rate).mp (List.mem_singleton_self _)
    unfold normalizePercent at hrate
    obtain ⟨x, -, hx⟩ := Option.bind_eq_some_iff.mp hrate
    rcases ite_eq_iff.mp hx with ⟨-, hnone⟩ | ⟨hbounds, hsome⟩
    · cases hnone
    · have hrate := Option.some.inj hsome
      have hnonneg : 0 ≤ x := not_lt.mp fun hneg => hbounds (Or.inl hneg)
      have hround : 0 ≤ round (x * 10000) := by
        rw [round_eq]
        exact Int.floor_nonneg.mpr (by positivity)
      refine ⟨?_, _, hrate.symm⟩
      rw [← hrate]
      positivity

lemma invoiceDetail_read (hnumber : ReadsDecimals toNumber) {price taxRate : ℚ}
    (hprice : ∃ n : ℤ, price = n / 10000) (htax : ∃ n : ℤ, taxRate = n / 10000) :
    detailTotal toNumber (invoiceDetail price taxRate) = some (price * (1 + taxRate / 100)) := by
  obtain ⟨m, rfl⟩ := hprice
  obtain ⟨n, rfl⟩ := htax
  have hrecord : (invoiceDetail (m / 10000) (n / 10000)).isRecord = true := rfl
  have hquantity : (invoiceDetail (m / 10000) (n / 10000)).field? "quantity" =
      some (payloadNumber 1) := rfl
  have htax : (invoiceDetail (m / 10000) (n / 10000)).field? "taxRate" =
      some (payloadNumber (n / 10000)) := rfl
  have hprice : (invoiceDetail (m / 10000) (n / 10000)).field? "price" =
      some (payloadNumber (m / 10000)) := rfl
  have hone : readNumber toNumber (payloadNumber 1) = some 1 := by
    have h := readNumber_payloadNumber hnumber 10000
    norm_num at h
    exact h
  unfold detailTotal
  rw [if_pos hrecord, hquantity, htax, hprice, Option.bind_some, Option.bind_some,
    Option.bind_some, hone, readNumber_payloadNumber hnumber, readNumber_payloadNumber hnumber]
  simp

end Request

/-- **What the invoice bills.**  The price of a request that is ready is the commission of the
settlement, and its tax rate the one rate that the lines with a commission carry.  Its total differs from the commission and VAT that were withheld by half a minor unit
at most for each line with a commission, if the lines that take back commission carry its tax rate;
and the total is what is expected of the provider's invoice. -/
theorem commissionInvoice_bills {toNumber : String → Option ℚ}
    {toTurkishLowerCase : String → String} (hnumber : ReadsDecimals toNumber)
    {approval : RequestApproval} {lines : List BuiltLine} (hlines : SettlesLines approval lines)
    (hcolumns : ∀ l ∈ lines, l.HasVatColumn) {json : Json}
    (hready : buildSettlementLogoCommissionInvoiceRequestSnapshot toNumber toTurkishLowerCase
      (some approval) = .ok (.ready json)) :
    ∃ isPerson price taxRate,
      json = .object [("logoPayload", invoicePayload isPerson price taxRate)] ∧
      price = approval.commissionMinor / 100 ∧
      detectedRates toNumber readLineValue .commissionVatPercentSnapshot approval.guarded =
        [taxRate] ∧
      ((∀ l ∈ lines, l.CarriesRate taxRate) →
        |price * (1 + taxRate / 100) * 100 -
            (approval.commissionMinor + approval.commissionVatMinor)| ≤
          ((lines.filter fun l => decide (l.source.line.commissionMinor ≠ 0)).length : ℚ) / 2) ∧
      getExpectedInvoiceTotalMinor toNumber json =
        some (round (price * (1 + taxRate / 100) * 100)) := by
  obtain ⟨rate, isPerson, price, taxRate, hfrozen, hpositive, hrates, hprice, htax, rfl⟩ :=
    request_ready hready
  obtain ⟨hrate, hnonneg, n, hn⟩ := detectedRates_eq_singleton hfrozen hrates
  have hprice' : price = approval.commissionMinor / 100 := by
    have hmajor : minorToMajor approval.commissionMinor * 10000 =
        ((approval.commissionMinor * 100 : ℤ) : ℚ) := by
      unfold minorToMajor
      push_cast
      ring
    have hpos : 0 ≤ minorToMajor approval.commissionMinor := by
      unfold minorToMajor
      positivity
    rw [parseLogoDecimalNumber_ok hpos hprice, hmajor, round_intCast]
    push_cast
    ring
  have htax' : taxRate = rate := by
    rw [parseLogoDecimalNumber_ok hnonneg htax, hn, div_mul_cancel₀ _ (by norm_num), round_intCast]
  refine ⟨isPerson, price, taxRate, rfl, hprice', htax' ▸ hrates, fun hcarries => ?_, ?_⟩
  · have hvat : ∀ l ∈ lines, |(l.source.line.commissionVatMinor : ℚ) -
        l.source.line.commissionMinor * taxRate / 100| ≤ l.roundingBound := by
      intro l hl
      refine abs_vatMinor_sub_le (fun row hsource htype => ?_) (hcarries l hl)
      have htype' : l.guardLine.lineType = .sale := by
        show l.source.line.lineType = .sale
        rw [hsource]
        exact (buildLine_sale htype).1
      have hline : l.guardLine ∈ approval.guarded.executionLines := by
        refine List.mem_filter.mpr ⟨?_, ?_⟩
        · rw [hlines.guarded]
          exact List.mem_map_of_mem hl
        · unfold lineRequiresPolicySnapshots
          simp [htype']
      rw [htax']
      exact saleLine_rate hnumber (hcolumns l hl) hsource htype (hfrozen.complete _ hline)
        (hrate _ hline)
    have hsum := abs_sum_vatMinor_sub_le hvat
    rw [sum_roundingBound, ← hlines.commissionMinor, ← hlines.commissionVatMinor, ← abs_neg] at hsum
    refine le_of_eq_of_le (congrArg abs ?_) hsum
    rw [hprice']
    ring
  · have hpayload : ((Json.object [("logoPayload", invoicePayload isPerson price taxRate)]).field?
        "logoPayload").bind (·.field? "salesInvoiceDetails") =
          some (.array [invoiceDetail price taxRate]) := rfl
    unfold getExpectedInvoiceTotalMinor
    rw [hpayload]
    simp only [Option.bind_some, arrayItems, List.mapM_cons, List.mapM_nil]
    rw [invoiceDetail_read hnumber ⟨approval.commissionMinor * 100, ?_⟩ ⟨n, by rw [htax', hn]⟩]
    · simp
    · rw [hprice']
      push_cast
      ring

/-! ## A small commission -/

section Sample

/-- `Number` of a text with four decimals at most. -/
def sampleNumber (text : String) : Option ℚ :=
  if text.toList.head? = some '-' then (readFixed 4 text.toList.tail).map Neg.neg
  else readFixed 4 text.toList

lemma sampleNumber_reads : ReadsDecimals sampleNumber := by
  intro n
  have hround : round ((n : ℚ) / 10000 * 10000) = n := by
    rw [div_mul_cancel₀ _ (by norm_num), round_intCast]
  have hcast : ((n.natAbs : ℕ) : ℚ) = |(n : ℚ)| := by
    rw [← Int.cast_natCast, Int.natCast_natAbs, Int.cast_abs]
  unfold sampleNumber formatDecimal
  simp only [String.toList_ofList, hround]
  by_cases hneg : n < 0
  · have hneg' : (n : ℚ) < 0 := by exact_mod_cast hneg
    have hhead : (['-'] ++ fixedText 4 n.natAbs).head? = some '-' := rfl
    rw [if_pos hneg, if_pos hhead]
    show (readFixed 4 (fixedText 4 n.natAbs)).map Neg.neg = _
    rw [readFixed_fixedText, hcast, abs_of_neg hneg']
    norm_num
    ring
  · have hpos : (0 : ℚ) ≤ n := by exact_mod_cast not_lt.mp hneg
    have hhead : ¬(fixedText 4 n.natAbs).head? = some '-' := by
      obtain ⟨d, cs, hcs⟩ := fixedText_head 4 n.natAbs
      rw [hcs]
      intro hd
      have hdigit := isDigit_digitChar d
      rw [Option.some.inj hd] at hdigit
      exact absurd hdigit (by decide)
    rw [if_neg hneg, List.nil_append, if_neg hhead, readFixed_fixedText, hcast,
      abs_of_nonneg hpos]
    norm_num

/-- A sale of 0.20 at 10 % commission and 20 % VAT. -/
def sampleBuilt : BuiltLine :=
  let row := sampleSaleRow (1 / 5) (some 10) (some 20)
  { id := 1
    source := .row { row with entry := { row.entry with
      deductShippingEnabledSnapshot := some false
      shippingModeSnapshot := some .disabled } }
    shippingCostSource := none
    shippingCostProvider := none
    ledger := none }

def sampleApproval : RequestApproval where
  guarded := ⟨.approved, [sampleBuilt.guardLine]⟩
  currency := "TRY"
  commissionMinor := 2
  commissionVatMinor := 0
  billing := some ⟨fun _ => some "company", some "1", some "1"⟩

lemma sampleApproval_settles : SettlesLines sampleApproval [sampleBuilt] where
  guarded := rfl
  commissionMinor := by decide +kernel
  commissionVatMinor := by decide +kernel

def isReady : Except String RequestSnapshotResult → Bool
  | .ok (.ready _) => true
  | .ok (.blocked _) => false
  | .error _ => false

lemma ready_of_isReady (approval : RequestApproval)
    (h : isReady (buildSettlementLogoCommissionInvoiceRequestSnapshot sampleNumber id
      (some approval)) = true) :
    ∃ json, buildSettlementLogoCommissionInvoiceRequestSnapshot sampleNumber id (some approval) =
      .ok (.ready json) := by
  unfold isReady at h
  split at h
  · rename_i json hjson
    exact ⟨json, hjson⟩
  · cases h
  · cases h

lemma sampleApproval_ready : ∃ json, buildSettlementLogoCommissionInvoiceRequestSnapshot
    sampleNumber id (some sampleApproval) = .ok (.ready json) :=
  ready_of_isReady sampleApproval (by decide +kernel)

lemma sampleBuilt_hasVatColumn : sampleBuilt.HasVatColumn := by
  intro row hrow v hv
  obtain rfl := SettlementLineSource.row.inj hrow
  obtain rfl := Option.some.inj hv
  exact ⟨2000, by norm_num⟩

/-- A refund of 0.12 of an older sale, at the same rates. -/
def sampleRefundBuilt : BuiltLine :=
  { sampleBuilt with
    id := 2
    source := .row (sampleRefundRow (sampleSaleRow (1 / 5) (some 10) (some 20)) 2 (3 / 25)) }

/-- The sale and the refund: a commission of 0.02, of which 0.01 is taken back. -/
def sampleRefundApproval : RequestApproval :=
  { sampleApproval with
    guarded := ⟨.approved, [sampleBuilt.guardLine, sampleRefundBuilt.guardLine]⟩
    commissionMinor := 1 }

/-- Of a commission of 0.01, on which no VAT was withheld, the request bills 0.012: less than a
minor unit more, as both lines are rounded. -/
theorem commissionInvoice_bills_sample : ∃ (json : Json) (price taxRate : ℚ),
    buildSettlementLogoCommissionInvoiceRequestSnapshot sampleNumber id
      (some sampleRefundApproval) = .ok (.ready json) ∧
    price = sampleRefundApproval.commissionMinor / 100 ∧ taxRate = 20 ∧
    |price * (1 + taxRate / 100) * 100 -
      (sampleRefundApproval.commissionMinor + sampleRefundApproval.commissionVatMinor)| ≤ 1 ∧
    getExpectedInvoiceTotalMinor sampleNumber json =
      some (round (price * (1 + taxRate / 100) * 100)) := by
  have hsettles : SettlesLines sampleRefundApproval [sampleBuilt, sampleRefundBuilt] :=
    ⟨rfl, by decide +kernel, by decide +kernel⟩
  have hcolumns : ∀ l ∈ [sampleBuilt, sampleRefundBuilt], l.HasVatColumn := by
    intro l hl row hrow v hv
    rcases List.mem_pair.mp hl with rfl | rfl
    · exact sampleBuilt_hasVatColumn row hrow v hv
    · obtain rfl := SettlementLineSource.row.inj hrow
      cases hv
  obtain ⟨json, hready⟩ := ready_of_isReady sampleRefundApproval (by decide +kernel)
  obtain ⟨isPerson, price, taxRate, -, hprice, hrates, hbound, hexpected⟩ :=
    commissionInvoice_bills sampleNumber_reads hsettles hcolumns hready
  have hrate : taxRate = 20 := by
    have h : detectedRates sampleNumber readLineValue .commissionVatPercentSnapshot
        sampleRefundApproval.guarded = [20] := by
      decide +kernel
    exact List.singleton_inj.mp (hrates.symm.trans h)
  have hcarries : ∀ l ∈ [sampleBuilt, sampleRefundBuilt], l.CarriesRate taxRate := by
    intro l hl row hrow htype _
    rw [hrate]
    rcases List.mem_pair.mp hl with rfl | rfl
    · obtain rfl := SettlementLineSource.row.inj hrow
      cases htype
    · obtain rfl := SettlementLineSource.row.inj hrow
      decide +kernel
  have hcount : (([sampleBuilt, sampleRefundBuilt].filter fun l =>
      decide (l.source.line.commissionMinor ≠ 0)).length : ℚ) / 2 = 1 := by
    have h : ([sampleBuilt, sampleRefundBuilt].filter fun l =>
        decide (l.source.line.commissionMinor ≠ 0)).length = 2 := by
      decide +kernel
    rw [h]
    norm_num
  exact ⟨json, price, taxRate, hready, hprice, hrate, hcount ▸ hbound hcarries, hexpected⟩

/-- No line of the settlement has commission VAT, and the invoice charges it. -/
theorem commissionInvoice_billsMore : ∃ isPerson price taxRate,
    SettlesLines sampleApproval [sampleBuilt] ∧
      buildSettlementLogoCommissionInvoiceRequestSnapshot sampleNumber id (some sampleApproval) =
        .ok (.ready (.object [("logoPayload", invoicePayload isPerson price taxRate)])) ∧
      sampleBuilt.source.line.commissionVatMinor = 0 ∧
      price * (1 + taxRate / 100) ≠
        (sampleApproval.commissionMinor + sampleApproval.commissionVatMinor) / 100 := by
  obtain ⟨json, hready⟩ := sampleApproval_ready
  obtain ⟨rate, isPerson, price, taxRate, -, -, hrates, hprice, htax, rfl⟩ := request_ready hready
  have hrate : rate = 20 := by
    have h : detectedRates sampleNumber readLineValue .commissionVatPercentSnapshot
        sampleApproval.guarded = [20] := by
      decide +kernel
    exact List.singleton_inj.mp (hrates.symm.trans h)
  have hprice' : price = 1 / 50 := by
    rw [parseLogoDecimalNumber_ok (by norm_num [minorToMajor, sampleApproval]) hprice]
    norm_num [minorToMajor, sampleApproval, round_eq]
  have htax' : taxRate = 20 := by
    rw [hrate] at htax
    rw [parseLogoDecimalNumber_ok (by norm_num) htax]
    norm_num [round_eq]
  refine ⟨isPerson, price, taxRate, sampleApproval_settles, hready, by decide +kernel, ?_⟩
  rw [hprice', htax']
  norm_num [sampleApproval]

end Sample

end VendorDashboard.Finance.CommissionInvoiceRequest

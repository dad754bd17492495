import Mathlib.Data.Finset.Card
import VendorDashboard.Finance.ExecutionSnapshots

/-!
# When the two guards of the execution snapshots agree

The strict guard accepts what is frozen on the lines (`Frozen readLineValue`).  The validation
reports nothing from the ledger when all but the evidence of an external provider is frozen
(`Frozen readWithLedgerEvidence`), and when no earlier report of the process has found a value in
the ledger.  `snapshotGuards_agree_iff` says when the two come to the same.
-/

namespace VendorDashboard.Finance.ExecutionSnapshots

/-! ## Frozen settlements -/

section Frozen

variable (toNumber : String → Option ℚ)

/-- The terms that `read` finds are complete. -/
structure TermsComplete (read : SnapshotField → SnapshotValue) : Prop where
  commissionPercent :
    (normalizePercent toNumber (read .commissionPercentSnapshot).value).isSome = true
  commissionVatPercent :
    (normalizePercent toNumber (read .commissionVatPercentSnapshot).value).isSome = true
  deductShipping : (normalizeBoolean (read .deductShippingEnabledSnapshot).value).isSome = true
  shippingMode : (normalizeShippingMode (read .shippingModeSnapshot).value).isSome = true
  fixedFee : normalizeBoolean (read .deductShippingEnabledSnapshot).value = some true →
    normalizeShippingMode (read .shippingModeSnapshot).value = some .fixed →
      (snapshotNumber toNumber (read .fixedShippingFeeSnapshot).value).isSome = true
  externalCost : normalizeBoolean (read .deductShippingEnabledSnapshot).value = some true →
    normalizeShippingMode (read .shippingModeSnapshot).value = some .externalProvider →
      (snapshotNumber toNumber (read .shippingCostSnapshot).value).isSome = true ∧
        hasProviderEvidence read = true

/-- The settlement is approved, no line of it refers to a voided row, and the terms of the lines
that need them are complete, with one VAT rate. -/
structure Frozen (read : GuardLine → SnapshotField → SnapshotValue) (approval : GuardApproval) :
    Prop where
  approved : approval.status = .approved
  notVoided : ∀ line ∈ approval.lines, isLedgerVoided line.financeLedgerEntry = false
  complete : ∀ line ∈ approval.executionLines, TermsComplete toNumber (read line)
  oneVatRate : ∀ line ∈ approval.executionLines, ∀ line' ∈ approval.executionLines,
    normalizePercent toNumber (read line .commissionVatPercentSnapshot).value =
      normalizePercent toNumber (read line' .commissionVatPercentSnapshot).value

/-- The frozen line, except that the evidence of an external provider may be the ledger row's. -/
def readWithLedgerEvidence (line : GuardLine) (field : SnapshotField) : SnapshotValue :=
  match field with
  | .shippingCostSourceSnapshot | .shippingCostProviderSnapshot | .shippingCostIdSnapshot =>
      readSnapshotValue line field
  | _ => readLineValue line field

/-- A check of an execution line finds its value in the ledger row only. -/
def ResolvesFromLedger (approval : GuardApproval) : Prop :=
  ∃ line ∈ approval.executionLines, ∃ check ∈ snapshotChecks toNumber (readSnapshotValue line),
    check.resolvedFromLedger = true

end Frozen

variable {toNumber : String → Option ℚ}

/-! ## The checks -/

section Checks

variable {read : SnapshotField → SnapshotValue}

/-- The checks, one by one. -/
lemma forall_snapshotChecks {p : SnapshotCheck → Prop} :
    (∀ check ∈ snapshotChecks toNumber read, p check) ↔
      p ⟨.commissionPercentSnapshot,
        (normalizePercent toNumber (read .commissionPercentSnapshot).value).isSome,
        (read .commissionPercentSnapshot).source⟩ ∧
      p ⟨.commissionVatPercentSnapshot,
        (normalizePercent toNumber (read .commissionVatPercentSnapshot).value).isSome,
        (read .commissionVatPercentSnapshot).source⟩ ∧
      p ⟨.deductShippingEnabledSnapshot,
        (normalizeBoolean (read .deductShippingEnabledSnapshot).value).isSome,
        (read .deductShippingEnabledSnapshot).source⟩ ∧
      p ⟨.shippingModeSnapshot, (normalizeShippingMode (read .shippingModeSnapshot).value).isSome,
        (read .shippingModeSnapshot).source⟩ ∧
      (normalizeBoolean (read .deductShippingEnabledSnapshot).value = some true →
        normalizeShippingMode (read .shippingModeSnapshot).value = some .fixed →
          p ⟨.fixedShippingFeeSnapshot,
            (snapshotNumber toNumber (read .fixedShippingFeeSnapshot).value).isSome,
            (read .fixedShippingFeeSnapshot).source⟩) ∧
      (normalizeBoolean (read .deductShippingEnabledSnapshot).value = some true →
        normalizeShippingMode (read .shippingModeSnapshot).value = some .externalProvider →
          p ⟨.externalShippingCostSnapshot,
            (snapshotNumber toNumber (read .shippingCostSnapshot).value).isSome &&
              hasProviderEvidence read,
            (read .shippingCostSnapshot).source⟩) := by
  have hite : ∀ {q : Prop} [Decidable q] {check : SnapshotCheck},
      (∀ c ∈ (if q then [check] else []), p c) ↔ (q → p check) := by
    intro q _ check
    by_cases hq : q
    · simp [hq]
    · simp [hq]
  unfold snapshotChecks
  rw [List.forall_mem_append, List.forall_mem_append, hite, hite]
  simp only [List.forall_mem_cons, List.not_mem_nil, false_implies, implies_true, and_true,
    deductsShipping, decide_eq_true_eq, and_imp, and_assoc]

lemma termsComplete_iff : TermsComplete toNumber read ↔
    ∀ check ∈ snapshotChecks toNumber read, check.usable = true := by
  rw [forall_snapshotChecks]
  simp only [Bool.and_eq_true]
  exact ⟨fun h => ⟨h.1, h.2, h.3, h.4, h.5, h.6⟩, fun ⟨h₁, h₂, h₃, h₄, h₅, h₆⟩ =>
    ⟨h₁, h₂, h₃, h₄, h₅, h₆⟩⟩

end Checks

/-! ## What is read -/

section Read

variable {line : GuardLine} {field : SnapshotField}

lemma readSnapshotValue_eq_line (h : hasSnapshotValue (readLineValue line field).value = true) :
    readSnapshotValue line field = readLineValue line field := by
  unfold readSnapshotValue
  rw [if_pos h]
  rfl

/-- What is read from elsewhere than the ledger and can be used is the line's. -/
lemma usable_iff_line {p : Json → Bool} (hp : ∀ v, p v = true → hasSnapshotValue v = true) :
    (p (readSnapshotValue line field).value = true ∧
        (readSnapshotValue line field).source ≠ .ledger) ↔
      p (readLineValue line field).value = true := by
  by_cases hline : hasSnapshotValue (readLineValue line field).value = true
  · rw [readSnapshotValue_eq_line hline]
    simp [readLineValue]
  · have hnot : ¬p (readLineValue line field).value = true := mt (hp _) hline
    refine ⟨fun ⟨hvalue, hsource⟩ => ?_, fun h => (hnot h).elim⟩
    unfold readSnapshotValue at hvalue hsource
    simp only [if_neg hline] at hvalue hsource
    split at hsource
    · exact (hsource rfl).elim
    · rename_i hledger
      rw [if_neg hledger] at hvalue
      exact absurd (hp _ hvalue) (by simp [hasSnapshotValue])

lemma hasSnapshotValue_of_snapshotNumber {v : Json}
    (h : (snapshotNumber toNumber v).isSome = true) : hasSnapshotValue v = true := by
  unfold snapshotNumber at h
  by_contra hv
  rw [if_neg hv] at h
  cases h

lemma hasSnapshotValue_of_normalizePercent {v : Json}
    (h : (normalizePercent toNumber v).isSome = true) : hasSnapshotValue v = true := by
  refine @hasSnapshotValue_of_snapshotNumber toNumber _ ?_
  unfold normalizePercent at h
  cases hnumber : snapshotNumber toNumber v with
  | none => simp [hnumber] at h
  | some x => rfl

lemma hasSnapshotValue_of_normalizeBoolean {v : Json}
    (h : (normalizeBoolean v).isSome = true) : hasSnapshotValue v = true := by
  cases v with
  | null => simp [normalizeBoolean] at h
  | string s =>
      by_contra hs
      simp only [hasSnapshotValue, decide_eq_true_eq, not_not] at hs
      subst hs
      revert h
      decide
  | bool b => rfl
  | number text => rfl
  | array items => rfl
  | object fields => rfl

lemma hasSnapshotValue_of_normalizeShippingMode {v : Json}
    (h : (normalizeShippingMode v).isSome = true) : hasSnapshotValue v = true := by
  cases v with
  | null => exact absurd h (by decide +kernel)
  | string s =>
      by_contra hs
      simp only [hasSnapshotValue, decide_eq_true_eq, not_not] at hs
      subst hs
      exact absurd h (by decide +kernel)
  | bool b => rfl
  | number text => rfl
  | array items => rfl
  | object fields => rfl

end Read

/-! ## Accepted settlements -/

section Accepted

variable {read : GuardLine → SnapshotField → SnapshotValue} {approval : GuardApproval}

/-- There is one percentage at most iff the lines agree. -/
lemma detectedRates_length_le_one {field : SnapshotField} (hsome : ∀ line ∈ approval.executionLines,
    (normalizePercent toNumber (read line field).value).isSome = true) :
    (detectedRates toNumber read field approval).length ≤ 1 ↔
      ∀ line ∈ approval.executionLines, ∀ line' ∈ approval.executionLines,
        normalizePercent toNumber (read line field).value =
          normalizePercent toNumber (read line' field).value := by
  unfold detectedRates
  rw [List.length_insertionSort, ← List.card_toFinset, Finset.card_le_one]
  simp only [List.mem_toFinset, List.mem_filterMap]
  constructor
  · intro hone line hline line' hline'
    obtain ⟨x, hx⟩ := Option.isSome_iff_exists.mp (hsome line hline)
    obtain ⟨y, hy⟩ := Option.isSome_iff_exists.mp (hsome line' hline')
    rw [hx, hy, hone x ⟨line, hline, hx⟩ y ⟨line', hline', hy⟩]
  · rintro hsame x ⟨line, hline, hx⟩ y ⟨line', hline', hy⟩
    have heq := hsame line hline line' hline'
    rw [hx, hy] at heq
    exact Option.some.inj heq

lemma lineBlockers_eq_nil {line : GuardLine} : lineBlockers toNumber read line = [] ↔
    isLedgerVoided line.financeLedgerEntry = false ∧
      (lineRequiresPolicySnapshots line = true → TermsComplete toNumber (read line)) := by
  unfold lineBlockers
  rw [List.append_eq_nil_iff, termsComplete_iff]
  refine and_congr ?_ ?_
  · by_cases hvoided : isLedgerVoided line.financeLedgerEntry = true
    · simp [hvoided]
    · simp [hvoided]
  · by_cases hrequired : lineRequiresPolicySnapshots line = true
    · simp [hrequired, List.filter_eq_nil_iff]
    · simp [hrequired]

/-- Nothing is found wrong with a settlement iff it is frozen as it is read. -/
lemma guardBlockers_eq_nil : guardBlockers toNumber read approval = [] ↔
    Frozen toNumber read approval := by
  have hstatus : ∀ {message : String}, (if approval.status = .approved then [] else [message]) =
      [] ↔ approval.status = .approved := by
    intro message
    by_cases h : approval.status = .approved
    · simp [h]
    · simp [h]
  have hrates : ∀ {n : ℕ} {message : String}, (if 1 < n then [message] else []) = [] ↔ n ≤ 1 := by
    intro n message
    by_cases h : 1 < n
    · simp [h]
    · simp [h, not_lt.mp h]
  unfold guardBlockers
  rw [List.append_eq_nil_iff, List.append_eq_nil_iff, hstatus, hrates, List.flatMap_eq_nil_iff]
  simp only [lineBlockers_eq_nil]
  constructor
  · rintro ⟨⟨happroved, hlines⟩, hone⟩
    have hcomplete : ∀ line ∈ approval.executionLines, TermsComplete toNumber (read line) := by
      intro line hline
      obtain ⟨hmem, hrequired⟩ := List.mem_filter.mp hline
      exact (hlines line hmem).2 hrequired
    refine ⟨happroved, fun line hline => (hlines line hline).1, hcomplete, ?_⟩
    exact (detectedRates_length_le_one fun line hline =>
      (hcomplete line hline).commissionVatPercent).mp hone
  · intro h
    refine ⟨⟨h.approved, fun line hline => ⟨h.notVoided line hline, fun hrequired => ?_⟩⟩, ?_⟩
    · exact h.complete line (List.mem_filter.mpr ⟨hline, hrequired⟩)
    · exact (detectedRates_length_le_one fun line hline =>
        (h.complete line hline).commissionVatPercent).mpr h.oneVatRate

lemma eraseDups_eq_nil {l : List String} : l.eraseDups = [] ↔ l = [] := by
  cases l with
  | nil => simp
  | cons message l => simp [List.eraseDups_cons]

lemma buildStrictExecutionSnapshotGuard_ok :
    (buildStrictExecutionSnapshotGuard toNumber (some approval)).ok = true ↔
      Frozen toNumber readLineValue approval := by
  rw [← guardBlockers_eq_nil, ← eraseDups_eq_nil]
  exact List.isEmpty_iff

lemma validateSettlementApprovalExecutionSnapshots_ok {shared : SharedLineIds} :
    (validateSettlementApprovalExecutionSnapshots toNumber shared (some approval)).1.ok = true ↔
      Frozen toNumber readSnapshotValue approval := by
  rw [← guardBlockers_eq_nil, ← eraseDups_eq_nil]
  exact List.isEmpty_iff

end Accepted

/-! ## Values from the ledger -/

section Ledger

variable {line : GuardLine} {approval : GuardApproval}

/-- Frozen terms are read as they are. -/
lemma TermsComplete.read_eq (h : TermsComplete toNumber (readLineValue line)) :
    readSnapshotValue line .commissionPercentSnapshot =
        readLineValue line .commissionPercentSnapshot ∧
      readSnapshotValue line .commissionVatPercentSnapshot =
        readLineValue line .commissionVatPercentSnapshot ∧
      readSnapshotValue line .shippingModeSnapshot = readLineValue line .shippingModeSnapshot :=
  ⟨readSnapshotValue_eq_line (hasSnapshotValue_of_normalizePercent h.commissionPercent),
    readSnapshotValue_eq_line (hasSnapshotValue_of_normalizePercent h.commissionVatPercent),
    readSnapshotValue_eq_line (hasSnapshotValue_of_normalizeShippingMode h.shippingMode)⟩

lemma forall_usable_iff :
    (∀ check ∈ snapshotChecks toNumber (readSnapshotValue line),
        check.usable = true ∧ check.source ≠ .ledger) ↔
      ∀ check ∈ snapshotChecks toNumber (readWithLedgerEvidence line), check.usable = true := by
  have hpercent : ∀ field, ((normalizePercent toNumber (readSnapshotValue line field).value).isSome
      = true ∧ (readSnapshotValue line field).source ≠ .ledger) ↔
        (normalizePercent toNumber (readLineValue line field).value).isSome = true :=
    fun field => usable_iff_line (p := fun v => (normalizePercent toNumber v).isSome)
      fun _ => hasSnapshotValue_of_normalizePercent
  have hnumber : ∀ field, ((snapshotNumber toNumber (readSnapshotValue line field).value).isSome
      = true ∧ (readSnapshotValue line field).source ≠ .ledger) ↔
        (snapshotNumber toNumber (readLineValue line field).value).isSome = true :=
    fun field => usable_iff_line (p := fun v => (snapshotNumber toNumber v).isSome)
      fun _ => hasSnapshotValue_of_snapshotNumber
  have hboolean := @usable_iff_line line .deductShippingEnabledSnapshot
    (fun v => (normalizeBoolean v).isSome) fun _ => hasSnapshotValue_of_normalizeBoolean
  have hmode := @usable_iff_line line .shippingModeSnapshot
    (fun v => (normalizeShippingMode v).isSome) fun _ => hasSnapshotValue_of_normalizeShippingMode
  have hevidence : hasProviderEvidence (readWithLedgerEvidence line) =
      hasProviderEvidence (readSnapshotValue line) := rfl
  rw [forall_snapshotChecks, forall_snapshotChecks]
  simp only [Bool.and_eq_true, hevidence]
  simp only [readWithLedgerEvidence, hpercent]
  rw [hboolean, hmode, hnumber]
  refine and_congr_right fun _ => and_congr_right fun _ => ?_
  refine and_congr_right fun hb => and_congr_right fun hm => ?_
  rw [readSnapshotValue_eq_line (hasSnapshotValue_of_normalizeBoolean hb),
    readSnapshotValue_eq_line (hasSnapshotValue_of_normalizeShippingMode hm)]
  refine and_congr_right fun _ => forall_congr' fun _ => forall_congr' fun _ => ?_
  rw [and_right_comm, hnumber]

lemma TermsComplete.unresolved_iff :
    (TermsComplete toNumber (readSnapshotValue line) ∧
        ∀ check ∈ snapshotChecks toNumber (readSnapshotValue line),
          ¬check.resolvedFromLedger = true) ↔
      TermsComplete toNumber (readWithLedgerEvidence line) := by
  rw [termsComplete_iff, termsComplete_iff, ← forall_usable_iff, ← forall₂_and]
  refine forall₂_congr fun check _ => ?_
  simp only [SnapshotCheck.resolvedFromLedger, Bool.and_eq_true, decide_eq_true_eq, not_and]
  exact and_congr_right fun husable => ⟨fun h => h husable, fun h _ => h⟩

/-- The settlement is frozen but for evidence iff the validation accepts it and resolves nothing. -/
lemma Frozen.unresolved_iff : (Frozen toNumber readSnapshotValue approval ∧
    ¬ResolvesFromLedger toNumber approval) ↔ Frozen toNumber readWithLedgerEvidence approval := by
  have hvat : ∀ line ∈ approval.executionLines, TermsComplete toNumber (readWithLedgerEvidence line) →
      normalizePercent toNumber (readSnapshotValue line .commissionVatPercentSnapshot).value =
        normalizePercent toNumber
          (readWithLedgerEvidence line .commissionVatPercentSnapshot).value := by
    intro line _ hcomplete
    rw [readSnapshotValue_eq_line
      (hasSnapshotValue_of_normalizePercent hcomplete.commissionVatPercent)]
    rfl
  constructor
  · rintro ⟨h, hnot⟩
    have hcomplete : ∀ line ∈ approval.executionLines,
        TermsComplete toNumber (readWithLedgerEvidence line) := by
      intro line hline
      refine TermsComplete.unresolved_iff.mp ⟨h.complete line hline, fun check hcheck hresolved => ?_⟩
      exact hnot ⟨line, hline, check, hcheck, hresolved⟩
    refine ⟨h.approved, h.notVoided, hcomplete, fun line hline line' hline' => ?_⟩
    rw [← hvat line hline (hcomplete line hline), ← hvat line' hline' (hcomplete line' hline')]
    exact h.oneVatRate line hline line' hline'
  · intro h
    refine ⟨⟨h.approved, h.notVoided, fun line hline => ?_, fun line hline line' hline' => ?_⟩, ?_⟩
    · exact (TermsComplete.unresolved_iff.mpr (h.complete line hline)).1
    · rw [hvat line hline (h.complete line hline), hvat line' hline' (h.complete line' hline')]
      exact h.oneVatRate line hline line' hline'
    · rintro ⟨line, hline, check, hcheck, hresolved⟩
      exact (TermsComplete.unresolved_iff.mpr (h.complete line hline)).2 check hcheck hresolved

/-- What is frozen on the lines is frozen. -/
lemma Frozen.withLedgerEvidence (h : Frozen toNumber readLineValue approval) :
    Frozen toNumber readWithLedgerEvidence approval := by
  refine ⟨h.approved, h.notVoided, fun line hline => ?_, h.oneVatRate⟩
  have hline := h.complete line hline
  refine ⟨hline.commissionPercent, hline.commissionVatPercent, hline.deductShipping,
    hline.shippingMode, hline.fixedFee, fun hdeducts hmode => ?_⟩
  obtain ⟨hcost, hevidence⟩ := hline.externalCost hdeducts hmode
  refine ⟨hcost, ?_⟩
  unfold hasProviderEvidence at hevidence ⊢
  obtain ⟨field, hfield, hvalue⟩ := List.any_eq_true.mp hevidence
  refine List.any_eq_true.mpr ⟨field, hfield, ?_⟩
  have hread : hasSnapshotValue (readSnapshotValue line field).value = true := by
    rw [readSnapshotValue_eq_line hvalue]
    exact hvalue
  simp only [List.mem_cons, List.not_mem_nil, or_false] at hfield
  rcases hfield with rfl | rfl | rfl
  · exact hread
  · exact hread
  · exact hread

end Ledger

/-! ## The reports of a process -/

section Reports

variable (toNumber)

/-- The shared arrays after a process has reported on some approvals. -/
def sharedAfter (earlier : List (Option GuardApproval)) : SharedLineIds :=
  earlier.foldl (fun shared approval =>
    (validateSettlementApprovalExecutionSnapshots toNumber shared approval).2) .empty

/-- The strict guard accepts what the validation accepts without the ledger, and when both accept,
they report the same rates and modes. -/
def GuardsAgree (shared : SharedLineIds) (approval : Option GuardApproval) : Prop :=
  let strict := buildStrictExecutionSnapshotGuard toNumber approval
  let validated := (validateSettlementApprovalExecutionSnapshots toNumber shared approval).1
  (strict.ok = true ↔ validated.ok = true ∧ validated.warnings = [] ∧
    ∀ item, (validated.snapshotCompleteness item).resolvedFromLedgerLineIds = []) ∧
  (strict.ok = true → validated.ok = true →
    strict.detectedCommissionRates = validated.detectedCommissionRates ∧
      strict.detectedCommissionVatRates = validated.detectedCommissionVatRates ∧
        strict.detectedShippingModes = validated.detectedShippingModes)

variable {toNumber} {shared : SharedLineIds} {approval : GuardApproval}

lemma markedLineIds_resolved_eq_nil :
    markedLineIds toNumber readSnapshotValue SnapshotCheck.resolvedFromLedger approval = [] ↔
      ¬ResolvesFromLedger toNumber approval := by
  simp [markedLineIds, ResolvesFromLedger, List.filter_eq_nil_iff]

/-- The shared array stays empty iff no report has resolved a value from a ledger row. -/
lemma sharedAfter_resolved_eq_nil (earlier : List (Option GuardApproval)) :
    (sharedAfter toNumber earlier).resolvedFromLedgerLineIds = [] ↔
      ∀ approval, some approval ∈ earlier → ¬ResolvesFromLedger toNumber approval := by
  have hfold : ∀ shared : SharedLineIds, (earlier.foldl (fun shared approval =>
      (validateSettlementApprovalExecutionSnapshots toNumber shared approval).2)
        shared).resolvedFromLedgerLineIds = [] ↔ shared.resolvedFromLedgerLineIds = [] ∧
          ∀ approval, some approval ∈ earlier → ¬ResolvesFromLedger toNumber approval := by
    induction earlier with
    | nil => simp
    | cons approval earlier ih =>
        intro shared
        rw [List.foldl_cons, ih]
        cases approval with
        | none => simp [validateSettlementApprovalExecutionSnapshots]
        | some approval =>
            have hmark : (shared.mark toNumber approval).resolvedFromLedgerLineIds = [] ↔
                shared.resolvedFromLedgerLineIds = [] ∧
                  ¬ResolvesFromLedger toNumber approval := by
              rw [← markedLineIds_resolved_eq_nil]
              exact List.append_eq_nil_iff
            have hnext : (validateSettlementApprovalExecutionSnapshots toNumber shared
                (some approval)).2 = shared.mark toNumber approval := rfl
            rw [hnext, hmark, and_assoc]
            simp [or_imp, forall_and]
  refine (hfold .empty).trans (and_iff_right rfl)

/-- The validation mentions no ledger row iff none was resolved, now or before. -/
lemma unmentioned_iff :
    ((validateSettlementApprovalExecutionSnapshots toNumber shared (some approval)).1.warnings = [] ∧
      ∀ item, ((validateSettlementApprovalExecutionSnapshots toNumber shared
        (some approval)).1.snapshotCompleteness item).resolvedFromLedgerLineIds = []) ↔
      shared.resolvedFromLedgerLineIds = [] ∧ ¬ResolvesFromLedger toNumber approval := by
  have hmarked : ∀ item, ((validateSettlementApprovalExecutionSnapshots toNumber shared
      (some approval)).1.snapshotCompleteness item).resolvedFromLedgerLineIds =
        (shared.mark toNumber approval).resolvedFromLedgerLineIds := fun _ => rfl
  have hmark : (shared.mark toNumber approval).resolvedFromLedgerLineIds = [] ↔
      shared.resolvedFromLedgerLineIds = [] ∧ ¬ResolvesFromLedger toNumber approval := by
    rw [← markedLineIds_resolved_eq_nil]
    exact List.append_eq_nil_iff
  rw [← hmark]
  constructor
  · rintro ⟨-, hitems⟩
    exact hitems .lineAmountSnapshots
  · intro hnil
    have hitems : ∀ item, ((validateSettlementApprovalExecutionSnapshots toNumber shared
        (some approval)).1.snapshotCompleteness item).resolvedFromLedgerLineIds = [] :=
      fun item => (hmarked item).trans hnil
    refine ⟨eraseDups_eq_nil.mpr ?_, hitems⟩
    unfold ledgerWarnings
    rw [List.map_eq_nil_iff, List.filter_eq_nil_iff]
    intro item _
    simp [hnil]

/-- Frozen settlements are reported alike. -/
lemma Frozen.same_reports (h : Frozen toNumber readLineValue approval) :
    (∀ field, field = .commissionPercentSnapshot ∨ field = .commissionVatPercentSnapshot →
      detectedRates toNumber readLineValue field approval =
        detectedRates toNumber readSnapshotValue field approval) ∧
      detectedShippingModes readLineValue approval =
        detectedShippingModes readSnapshotValue approval := by
  refine ⟨fun field hfield => ?_, ?_⟩
  · unfold detectedRates
    congr 2
    refine List.filterMap_congr fun line hline => ?_
    obtain ⟨hpercent, hvat, -⟩ := (h.complete line hline).read_eq
    rcases hfield with rfl | rfl
    · rw [hpercent]
    · rw [hvat]
  · unfold detectedShippingModes
    refine List.filter_congr fun mode _ => ?_
    rw [Bool.eq_iff_iff, List.any_eq_true, List.any_eq_true]
    refine exists_congr fun line => and_congr_right fun hline => ?_
    rw [(h.complete line hline).read_eq.2.2]

/-- **The two guards.**  If an earlier report has resolved a value from a ledger row, the guards
agree on what is not frozen.  Otherwise they agree on everything but a settlement of which only the
evidence of the external provider is missing on the lines and found in the ledger. -/
theorem snapshotGuards_agree_iff (earlier : List (Option GuardApproval)) (approval : GuardApproval) :
    GuardsAgree toNumber (sharedAfter toNumber earlier) (some approval) ↔
      ((∃ before, some before ∈ earlier ∧ ResolvesFromLedger toNumber before) →
        ¬Frozen toNumber readLineValue approval) ∧
      ((∀ before, some before ∈ earlier → ¬ResolvesFromLedger toNumber before) →
        Frozen toNumber readWithLedgerEvidence approval →
          Frozen toNumber readLineValue approval) := by
  let strict := buildStrictExecutionSnapshotGuard toNumber (some approval)
  let validated := (validateSettlementApprovalExecutionSnapshots toNumber
    (sharedAfter toNumber earlier) (some approval)).1
  have hreports : strict.ok = true → validated.ok = true →
      strict.detectedCommissionRates = validated.detectedCommissionRates ∧
        strict.detectedCommissionVatRates = validated.detectedCommissionVatRates ∧
          strict.detectedShippingModes = validated.detectedShippingModes := by
    intro hok _
    have hsame := (buildStrictExecutionSnapshotGuard_ok.mp hok).same_reports
    exact ⟨hsame.1 .commissionPercentSnapshot (Or.inl rfl),
      hsame.1 .commissionVatPercentSnapshot (Or.inr rfl), hsame.2⟩
  unfold GuardsAgree
  rw [and_iff_left hreports, unmentioned_iff, sharedAfter_resolved_eq_nil,
    buildStrictExecutionSnapshotGuard_ok, validateSettlementApprovalExecutionSnapshots_ok,
    and_left_comm, Frozen.unresolved_iff]
  by_cases hearlier : ∀ before, some before ∈ earlier → ¬ResolvesFromLedger toNumber before
  · constructor
    · intro hagree
      refine ⟨fun ⟨before, hmem, hresolves⟩ => (hearlier before hmem hresolves).elim, ?_⟩
      exact fun _ hfrozen => hagree.mpr ⟨hearlier, hfrozen⟩
    · rintro ⟨-, hevidence⟩
      exact ⟨fun hfrozen => ⟨hearlier, hfrozen.withLedgerEvidence⟩,
        fun hfrozen => hevidence hearlier hfrozen.2⟩
  · have hsome : ∃ before, some before ∈ earlier ∧ ResolvesFromLedger toNumber before := by
      simpa using hearlier
    constructor
    · intro hagree
      exact ⟨fun _ hfrozen => hearlier (hagree.mp hfrozen).1, fun hall => (hearlier hall).elim⟩
    · rintro ⟨hnone, -⟩
      exact ⟨fun hfrozen => (hnone hsome hfrozen).elim, fun hfrozen => (hearlier hfrozen.1).elim⟩

end Reports

/-! ## Where the guards disagree -/

section Samples

def sampleNumber (text : String) : Option ℚ := if text = "20" then some 20 else none

def twenty : Json := .number (some ⟨"20", by decide +kernel, by decide⟩)

/-- A sale that is charged the shipping of an external provider; `evidence` names the provider. -/
def sampleLine (id : Id) (evidence : List (String × Json)) (ledger : SnapshotField → Json) :
    GuardLine where
  id := id
  lineType := .sale
  commissionMinor := 2000
  commissionVatMinor := 400
  sourceSnapshotJson := .object <| [("commissionPercentSnapshot", twenty),
    ("commissionVatPercentSnapshot", twenty), ("deductShippingEnabledSnapshot", .bool true),
    ("shippingModeSnapshot", .string "external_provider"), ("shippingCostSnapshot", twenty)] ++
    evidence
  financeLedgerEntry := some ⟨ledger, none⟩

def sampleEvidence : List (String × Json) := [("shippingCostProviderSnapshot", .string "carrier")]

/-- The evidence is in the ledger row alone. -/
def sampleEvidenceInLedger : GuardApproval :=
  ⟨.approved, [sampleLine 1 [] fun field =>
    if field = .shippingCostProviderSnapshot then .string "carrier" else .null]⟩

/-- Everything is on the line. -/
def sampleFrozen : GuardApproval := ⟨.approved, [sampleLine 2 sampleEvidence fun _ => .null]⟩

/-- The line was written without its snapshot, and the ledger row has the commission. -/
def sampleUnfrozen : GuardApproval :=
  ⟨.approved, [{ sampleLine 3 [] fun _ => twenty with sourceSnapshotJson := .null }]⟩

/-- The evidence of the ledger is not reported; and after one value was read from a ledger, every
settlement is reported as if its values had been. -/
theorem snapshotGuards_disagree :
    ¬GuardsAgree sampleNumber .empty (some sampleEvidenceInLedger) ∧
      ¬GuardsAgree sampleNumber (sharedAfter sampleNumber [some sampleUnfrozen])
        (some sampleFrozen) := by
  constructor
  · rintro ⟨hagree, -⟩
    have hstrict : ¬(buildStrictExecutionSnapshotGuard sampleNumber
        (some sampleEvidenceInLedger)).ok = true := by
      decide +kernel
    refine hstrict (hagree.mpr ⟨by decide +kernel, unmentioned_iff.mpr ⟨rfl, ?_⟩⟩)
    rw [← markedLineIds_resolved_eq_nil]
    decide +kernel
  · rintro ⟨hagree, -⟩
    have hstrict : (buildStrictExecutionSnapshotGuard sampleNumber (some sampleFrozen)).ok =
        true := by
      decide +kernel
    have hresolved := (unmentioned_iff.mp (hagree.mp hstrict).2).1
    revert hresolved
    decide +kernel

end Samples

end VendorDashboard.Finance.ExecutionSnapshots

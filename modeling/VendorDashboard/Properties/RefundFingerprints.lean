import VendorDashboard.Finance.RefundEvidenceNormalizer
import Mathlib.Logic.Equiv.Basic

/-!
# The fingerprint of refund evidence

Accepted inputs have one fingerprint exactly when they are the same evidence (`SameEvidence`): the
same identities, the same amounts as numbers, and the same transactions, lines and superseded
ledgers in any order.  What is stored is accepted with its fingerprint after any reordering of the
fields of objects, and nothing else is.
-/

namespace VendorDashboard.RefundEvidence

open Decimal Reordering StableJson Text Transaction

variable {toUpperCase sha256 : String → String}

/-! ## Amounts -/

/-- The number that an amount stands for. -/
def moneyValue (value : String) : Option ℚ := (scanDecimal (trim value).toList).map (·.value)

lemma canonicalMoney_eq_ok {value field : String} {allowZero : Bool} {money : String}
    (h : canonicalMoney value field allowZero = .ok money) :
    ∃ text : DecimalText, moneyValue value = some text.value ∧ money = text.plainText := by
  unfold canonicalMoney at h
  unfold moneyValue
  cases htext : scanDecimal (trim value).toList with
  | none =>
      rw [htext] at h
      cases h
  | some text =>
      simp only [htext] at h
      split at h
      · cases h
      · exact ⟨text, rfl, (Except.ok.inj h).symm⟩

/-- The spelling of an amount does not matter. -/
lemma canonicalMoney_eq_iff {value value' field field' : String} {allowZero allowZero' : Bool}
    {money money' : String} (h : canonicalMoney value field allowZero = .ok money)
    (h' : canonicalMoney value' field' allowZero' = .ok money') :
    money = money' ↔ moneyValue value = moneyValue value' := by
  obtain ⟨text, hvalue, rfl⟩ := canonicalMoney_eq_ok h
  obtain ⟨text', hvalue', rfl⟩ := canonicalMoney_eq_ok h'
  rw [hvalue, hvalue', Option.some_inj]
  exact DecimalText.plainText_eq_iff

lemma requiredIdentity_eq_ok {value field identity : String}
    (h : requiredIdentity value field = .ok identity) : identity = value := by
  unfold requiredIdentity at h
  split at h
  · cases h
  · exact (Except.ok.inj h).symm

lemma requiredCurrency_eq_ok {value field currency : String}
    (h : requiredCurrency toUpperCase value field = .ok currency) : currency = value := by
  unfold requiredCurrency at h
  split at h
  · cases h
  · exact (Except.ok.inj h).symm

/-! ## Items -/

/-- What is compared of a transaction. -/
def ResolvedTransaction.facts (t : ResolvedTransaction) :
    String × String × String × Option ℚ × String :=
  (t.transactionGid, t.kind, t.status, moneyValue t.amount, t.currency)

/-- What is compared of a refund line. -/
def ResolvedRefundLine.facts (l : ResolvedRefundLine) : String × ℚ × Option ℚ × Option String :=
  (l.sourceLineItemId, l.quantity, moneyValue l.subtotalAmount, l.currency)

/-- `n` is normalized from `t`. -/
structure NormalizesTransaction (t : ResolvedTransaction) (n : NormalizedTransaction) : Prop where
  transactionGid : n.transactionGid = t.transactionGid
  kind : n.kind = t.kind
  status : n.status = t.status
  amount : ∃ field, canonicalMoney t.amount field false = .ok n.amount
  currency : n.currency = t.currency

/-- `n` is normalized from `l`. -/
structure NormalizesRefundLine (l : ResolvedRefundLine) (n : NormalizedRefundLine) : Prop where
  sourceLineItemId : n.sourceLineItemId = l.sourceLineItemId
  quantity : n.quantity = l.quantity
  integral : IsSafeInteger n.quantity
  subtotalAmount : ∃ field, canonicalMoney l.subtotalAmount field true = .ok n.subtotalAmount
  currency : n.currency = l.currency

lemma normalizeTransaction_eq_ok {currency : String} {index : ℕ} {t : ResolvedTransaction}
    {n : NormalizedTransaction}
    (h : normalizeTransaction toUpperCase currency index t = .ok n) :
    NormalizesTransaction t n := by
  simp only [normalizeTransaction, bind_eq_ok, pure_eq_ok, require_eq_ok] at h
  obtain ⟨-, -, c, hc, -, -, gid, hgid, amount, hamount, rfl⟩ := h
  exact ⟨requiredIdentity_eq_ok hgid, rfl, rfl, ⟨_, hamount⟩, requiredCurrency_eq_ok hc⟩

lemma normalizeRefundLine_eq_ok {currency : String} {index : ℕ} {l : ResolvedRefundLine}
    {n : NormalizedRefundLine} (h : normalizeRefundLine toUpperCase currency index l = .ok n) :
    NormalizesRefundLine l n := by
  unfold normalizeRefundLine at h
  cases hcurrency : l.currency with
  | none =>
      simp only [hcurrency, bind_eq_ok, pure_eq_ok, require_eq_ok] at h
      obtain ⟨-, hquantity, c, rfl, -, -, id, hid, subtotal, hsubtotal, rfl⟩ := h
      exact ⟨requiredIdentity_eq_ok hid, rfl, hquantity.1, ⟨_, hsubtotal⟩, hcurrency.symm⟩
  | some value =>
      simp only [hcurrency, bind_eq_ok, pure_eq_ok, require_eq_ok] at h
      obtain ⟨-, hquantity, c, hc, -, -, id, hid, subtotal, hsubtotal, rfl⟩ := h
      refine ⟨requiredIdentity_eq_ok hid, rfl, hquantity.1, ⟨_, hsubtotal⟩, ?_⟩
      show c = l.currency
      cases hrequired : requiredCurrency toUpperCase value (itemField "refundLines" index
          ".currency") with
      | error e =>
          rw [hrequired] at hc
          cases hc
      | ok d =>
          rw [hrequired] at hc
          have hsome : some d = c := Except.ok.inj hc
          rw [← hsome, hcurrency, requiredCurrency_eq_ok hrequired]

/-- Normalized transactions differ exactly where the transactions do. -/
lemma NormalizesTransaction.eq_iff {t t' : ResolvedTransaction} {n n' : NormalizedTransaction}
    (h : NormalizesTransaction t n) (h' : NormalizesTransaction t' n') :
    n = n' ↔ t.facts = t'.facts := by
  obtain ⟨field, hamount⟩ := h.amount
  obtain ⟨field', hamount'⟩ := h'.amount
  have hmoney := canonicalMoney_eq_iff hamount hamount'
  have heq : n = n' ↔ n.transactionGid = n'.transactionGid ∧ n.kind = n'.kind ∧
      n.status = n'.status ∧ n.amount = n'.amount ∧ n.currency = n'.currency := by
    cases n
    cases n'
    simp
  rw [heq, hmoney, h.transactionGid, h'.transactionGid, h.kind, h'.kind, h.status, h'.status,
    h.currency, h'.currency]
  simp only [ResolvedTransaction.facts, Prod.mk.injEq]

lemma NormalizesRefundLine.eq_iff {l l' : ResolvedRefundLine} {n n' : NormalizedRefundLine}
    (h : NormalizesRefundLine l n) (h' : NormalizesRefundLine l' n') :
    n = n' ↔ l.facts = l'.facts := by
  obtain ⟨field, hsubtotal⟩ := h.subtotalAmount
  obtain ⟨field', hsubtotal'⟩ := h'.subtotalAmount
  have hmoney := canonicalMoney_eq_iff hsubtotal hsubtotal'
  have heq : n = n' ↔ n.sourceLineItemId = n'.sourceLineItemId ∧ n.quantity = n'.quantity ∧
      n.subtotalAmount = n'.subtotalAmount ∧ n.currency = n'.currency := by
    cases n
    cases n'
    simp
  rw [heq, hmoney, h.sourceLineItemId, h'.sourceLineItemId, h.quantity, h'.quantity, h.currency,
    h'.currency]
  simp only [ResolvedRefundLine.facts, Prod.mk.injEq]

/-! ## Texts of items -/

lemma NormalizedTransaction.stableChars_json (n : NormalizedTransaction) :
    ∃ a, stableChars n.json = some a := by
  simp [NormalizedTransaction.json, stableChars, fieldTexts]

lemma NormalizedRefundLine.stableChars_json {n : NormalizedRefundLine}
    (h : IsSafeInteger n.quantity) : ∃ a, stableChars n.json = some a := by
  cases hcurrency : n.currency <;>
    simp [NormalizedRefundLine.json, stableChars, fieldTexts, hcurrency, h]

lemma NormalizedTransaction.json_injective {n n' : NormalizedTransaction} {a : List Char}
    (h : stableChars n.json = some a) (h' : stableChars n'.json = some a) : n = n' := by
  have hfields := stableChars_object_injective (by rfl) (by simp) h h'
  simp only [List.forall₂_cons, List.forall₂_nil_left_iff, and_true] at hfields
  obtain ⟨⟨_, hgid, hgid'⟩, ⟨_, hkind, hkind'⟩, ⟨_, hstatus, hstatus'⟩, ⟨_, hamount, hamount'⟩,
    ⟨_, hcurrency, hcurrency'⟩⟩ := hfields
  cases n
  cases n'
  rw [NormalizedTransaction.mk.injEq]
  exact ⟨stableChars_string_injective hgid hgid', stableChars_string_injective hkind hkind',
    stableChars_string_injective hstatus hstatus', stableChars_string_injective hamount hamount',
    stableChars_string_injective hcurrency hcurrency'⟩

lemma NormalizedRefundLine.json_injective {n n' : NormalizedRefundLine} {a : List Char}
    (h : stableChars n.json = some a) (h' : stableChars n'.json = some a) : n = n' := by
  have hfields := stableChars_object_injective (by rfl) (by simp) h h'
  simp only [List.forall₂_cons, List.forall₂_nil_left_iff, and_true] at hfields
  obtain ⟨⟨_, hid, hid'⟩, ⟨_, hquantity, hquantity'⟩, ⟨_, hsubtotal, hsubtotal'⟩,
    ⟨_, hcurrency, hcurrency'⟩⟩ := hfields
  have hcurrencies : n.currency = n'.currency := by
    cases hc : n.currency with
    | none =>
        cases hc' : n'.currency with
        | none => rfl
        | some c' =>
            rw [hc] at hcurrency
            rw [hc'] at hcurrency'
            rw [← hcurrency] at hcurrency'
            simp [stableChars, quote] at hcurrency'
    | some c =>
        cases hc' : n'.currency with
        | none =>
            rw [hc] at hcurrency
            rw [hc'] at hcurrency'
            rw [← hcurrency'] at hcurrency
            simp [stableChars, quote] at hcurrency
        | some c' =>
            rw [hc] at hcurrency
            rw [hc'] at hcurrency'
            rw [stableChars_string_injective hcurrency hcurrency']
  cases n
  cases n'
  rw [NormalizedRefundLine.mk.injEq]
  exact ⟨stableChars_string_injective hid hid', stableChars_number_injective hquantity hquantity',
    stableChars_string_injective hsubtotal hsubtotal', hcurrencies⟩

/-- Texts by which items are sorted tell them apart. -/
lemma eq_of_textOf_eq {α : Type*} {f : α → Value} {x y : α}
    (hf : ∀ a, stableChars (f x) = some a → stableChars (f y) = some a → x = y)
    (hx : ∃ a, stableChars (f x) = some a) (hy : ∃ a, stableChars (f y) = some a)
    (h : textOf (f x) = textOf (f y)) : x = y := by
  obtain ⟨a, ha⟩ := hx
  obtain ⟨b, hb⟩ := hy
  simp only [textOf, stableJson, ha, hb, Option.map_some, Option.getD_some] at h
  obtain rfl := String.ofList_inj.mp h
  exact hf a ha hb

/-! ## Evidence -/

/-- Two inputs are the same evidence. -/
structure SameEvidence (x y : ResolvedRefundEvidenceInput) : Prop where
  sourceShopifyRefundId : x.sourceShopifyRefundId = y.sourceShopifyRefundId
  vendorAllocationId : x.vendorAllocationId = y.vendorAllocationId
  currency : x.currency = y.currency
  historicalEconomicVendorId : x.historicalEconomicVendorId = y.historicalEconomicVendorId
  historicalSaleFinanceLedgerEntryId :
    x.historicalSaleFinanceLedgerEntryId = y.historicalSaleFinanceLedgerEntryId
  refundTotalAmount : moneyValue x.refundTotalAmount = moneyValue y.refundTotalAmount
  transactions : (x.transactions.map (·.facts)).Perm (y.transactions.map (·.facts))
  refundLines : (x.refundLines.map (·.facts)).Perm (y.refundLines.map (·.facts))
  supersededSaleLedgerIds : x.supersededSaleLedgerIds.Perm y.supersededSaleLedgerIds

/-- `out` is normalized from `x`. -/
structure NormalizesEvidence (sha256 : String → String) (x : ResolvedRefundEvidenceInput)
    (out : NormalizedRefundEvidence) : Prop where
  sourceShopifyRefundId : out.sourceShopifyRefundId = x.sourceShopifyRefundId
  vendorAllocationId : out.vendorAllocationId = x.vendorAllocationId
  monetaryClassification : out.monetaryClassification = "MONETARY_REFUND"
  refundTotalAmount : canonicalMoney x.refundTotalAmount "refundTotalAmount" false =
    .ok out.refundTotalAmount
  currency : out.currency = x.currency
  historicalEconomicVendorId : out.historicalEconomicVendorId = x.historicalEconomicVendorId
  historicalSaleFinanceLedgerEntryId :
    out.historicalSaleFinanceLedgerEntryId = x.historicalSaleFinanceLedgerEntryId
  transactions : ∃ l, List.Forall₂ NormalizesTransaction x.transactions l ∧
    out.normalizedTransactionsJson = sortBy (fun n => textOf n.json) l
  refundLines : ∃ l, List.Forall₂ NormalizesRefundLine x.refundLines l ∧
    out.normalizedRefundLinesJson = sortBy (fun n => textOf n.json) l
  supersededSaleLedgerIds : out.supersededSaleLedgerIdsJson = sortBy id x.supersededSaleLedgerIds
  hashAlgorithm : out.hashAlgorithm = REFUND_EVIDENCE_HASH_ALGORITHM
  evidenceHash : ∃ text, stableJson out.normalizedEvidenceJson = some text ∧
    out.evidenceHash = sha256 text

/-- A list is normalized item by item. -/
lemma forall₂_of_mapM_zipIdx {α β : Type} {f : α × ℕ → Except String β} {R : α → β → Prop}
    (hR : ∀ a i b, f (a, i) = .ok b → R a b) {l : List α} {m : List β}
    (h : l.zipIdx.mapM f = .ok m) : List.Forall₂ R l m := by
  have hzip : List.Forall₂ (fun p b => R p.1 b) l.zipIdx m :=
    (mapM_eq_ok.mp h).imp fun p b hpb => hR p.1 p.2 b hpb
  have hmap := List.forall₂_map_left_iff (f := Prod.fst) (R := R) |>.mpr hzip
  rwa [List.zipIdx_map_fst] at hmap

lemma normalizeRefundEvidence_eq_ok {x : ResolvedRefundEvidenceInput}
    {out : NormalizedRefundEvidence}
    (h : normalizeRefundEvidence toUpperCase sha256 x = .ok out) :
    NormalizesEvidence sha256 x out := by
  simp only [normalizeRefundEvidence, bind_eq_ok, pure_eq_ok, require_eq_ok,
    getOrThrow_eq_ok] at h
  obtain ⟨refundId, hrefundId, orderId, -, allocationId, hallocationId, vendorId, hvendorId, saleId,
    hsaleId, -, hclass, currency, hcurrency, total, htotal, -, -, transactions, htransactions, lines,
    hlines, ids, hids, text, htext, rfl⟩ := h
  have hidsEq : ids = x.supersededSaleLedgerIds := by
    have hforall : List.Forall₂ (fun a b => a = b) x.supersededSaleLedgerIds ids :=
      forall₂_of_mapM_zipIdx (fun a i b hab => (requiredIdentity_eq_ok hab).symm) hids
    rw [List.forall₂_eq_eq_eq] at hforall
    exact hforall.symm
  exact
    { sourceShopifyRefundId := requiredIdentity_eq_ok hrefundId
      vendorAllocationId := requiredIdentity_eq_ok hallocationId
      monetaryClassification := hclass
      refundTotalAmount := htotal
      currency := requiredCurrency_eq_ok hcurrency
      historicalEconomicVendorId := requiredIdentity_eq_ok hvendorId
      historicalSaleFinanceLedgerEntryId := requiredIdentity_eq_ok hsaleId
      transactions := ⟨transactions, forall₂_of_mapM_zipIdx
        (fun a i b hab => normalizeTransaction_eq_ok hab) htransactions, rfl⟩
      refundLines := ⟨lines, forall₂_of_mapM_zipIdx
        (fun a i b hab => normalizeRefundLine_eq_ok hab) hlines, rfl⟩
      supersededSaleLedgerIds := by rw [← hidsEq]
      hashAlgorithm := rfl
      evidenceHash := ⟨text, htext, rfl⟩ }

namespace NormalizesEvidence

variable {x y : ResolvedRefundEvidenceInput} {out out' : NormalizedRefundEvidence}

lemma refundTotalAmount_eq_iff (h : NormalizesEvidence sha256 x out)
    (h' : NormalizesEvidence sha256 y out') : out.refundTotalAmount = out'.refundTotalAmount ↔
      moneyValue x.refundTotalAmount = moneyValue y.refundTotalAmount :=
  canonicalMoney_eq_iff h.refundTotalAmount h'.refundTotalAmount

/-- Sorted transactions are the same for the same transactions in any order. -/
lemma transactions_eq_iff (h : NormalizesEvidence sha256 x out)
    (h' : NormalizesEvidence sha256 y out') :
    out.normalizedTransactionsJson = out'.normalizedTransactionsJson ↔
      (x.transactions.map (·.facts)).Perm (y.transactions.map (·.facts)) := by
  obtain ⟨l, hl, hout⟩ := h.transactions
  obtain ⟨l', hl', hout'⟩ := h'.transactions
  rw [hout, hout', sortBy_eq_iff]
  · exact perm_iff_of_forall₂ (fun _ _ _ _ hab hab' => hab.eq_iff hab') hl hl'
  · intro n _ n' _ hkey
    exact eq_of_textOf_eq (fun a ha hb => NormalizedTransaction.json_injective ha hb)
      n.stableChars_json n'.stableChars_json hkey

lemma refundLines_eq_iff (h : NormalizesEvidence sha256 x out)
    (h' : NormalizesEvidence sha256 y out') :
    out.normalizedRefundLinesJson = out'.normalizedRefundLinesJson ↔
      (x.refundLines.map (·.facts)).Perm (y.refundLines.map (·.facts)) := by
  obtain ⟨l, hl, hout⟩ := h.refundLines
  obtain ⟨l', hl', hout'⟩ := h'.refundLines
  have hintegral : ∀ n ∈ l, IsSafeInteger n.quantity := by
    intro n hn
    obtain ⟨a, -, hna⟩ := (Reordered.of_forall₂ hl).exists_left hn
    exact hna.integral
  rw [hout, hout', sortBy_eq_iff]
  · exact perm_iff_of_forall₂ (fun _ _ _ _ hab hab' => hab.eq_iff hab') hl hl'
  · intro n hn n' hn' hkey
    exact eq_of_textOf_eq (fun a ha hb => NormalizedRefundLine.json_injective ha hb)
      (NormalizedRefundLine.stableChars_json (hintegral n hn))
      (NormalizedRefundLine.stableChars_json (hintegral n' hn')) hkey

lemma supersededSaleLedgerIds_eq_iff (h : NormalizesEvidence sha256 x out)
    (h' : NormalizesEvidence sha256 y out') :
    out.supersededSaleLedgerIdsJson = out'.supersededSaleLedgerIdsJson ↔
      x.supersededSaleLedgerIds.Perm y.supersededSaleLedgerIds := by
  rw [h.supersededSaleLedgerIds, h'.supersededSaleLedgerIds]
  exact sortBy_eq_iff fun a _ b _ hkey => hkey

end NormalizesEvidence

/-! ## The text of the evidence -/

namespace NormalizedRefundEvidence

/-- The evidence that is hashed is the same in all its parts. -/
structure SameText (e e' : NormalizedRefundEvidence) : Prop where
  sourceShopifyRefundId : e.sourceShopifyRefundId = e'.sourceShopifyRefundId
  vendorAllocationId : e.vendorAllocationId = e'.vendorAllocationId
  monetaryClassification : e.monetaryClassification = e'.monetaryClassification
  refundTotalAmount : e.refundTotalAmount = e'.refundTotalAmount
  currency : e.currency = e'.currency
  historicalEconomicVendorId : e.historicalEconomicVendorId = e'.historicalEconomicVendorId
  historicalSaleFinanceLedgerEntryId :
    e.historicalSaleFinanceLedgerEntryId = e'.historicalSaleFinanceLedgerEntryId
  transactions : e.normalizedTransactionsJson = e'.normalizedTransactionsJson
  refundLines : e.normalizedRefundLinesJson = e'.normalizedRefundLinesJson
  supersededSaleLedgerIds : e.supersededSaleLedgerIdsJson = e'.supersededSaleLedgerIdsJson

/-- Different evidence has different texts. -/
lemma sameText_of_stableChars_eq {e e' : NormalizedRefundEvidence} {a : List Char}
    (h : stableChars e.normalizedEvidenceJson = some a)
    (h' : stableChars e'.normalizedEvidenceJson = some a) : SameText e e' := by
  have hfields := stableChars_object_injective (by rfl) (by simp) h h'
  simp only [List.forall₂_cons, List.forall₂_nil_left_iff, and_true] at hfields
  obtain ⟨-, ⟨_, hrefundId, hrefundId'⟩, ⟨_, hallocationId, hallocationId'⟩, ⟨_, hclass, hclass'⟩,
    ⟨_, htotal, htotal'⟩, ⟨_, hcurrency, hcurrency'⟩, ⟨_, htransactions, htransactions'⟩,
    ⟨_, hlines, hlines'⟩, ⟨_, hownership, hownership'⟩⟩ := hfields
  have howner := stableChars_object_injective (by rfl) (by simp) hownership hownership'
  simp only [List.forall₂_cons, List.forall₂_nil_left_iff, and_true] at howner
  obtain ⟨⟨_, hvendorId, hvendorId'⟩, ⟨_, hsaleId, hsaleId'⟩, ⟨_, hids, hids'⟩⟩ := howner
  exact
    { sourceShopifyRefundId := stableChars_string_injective hrefundId hrefundId'
      vendorAllocationId := stableChars_string_injective hallocationId hallocationId'
      monetaryClassification := stableChars_string_injective hclass hclass'
      refundTotalAmount := stableChars_string_injective htotal htotal'
      currency := stableChars_string_injective hcurrency hcurrency'
      historicalEconomicVendorId := stableChars_string_injective hvendorId hvendorId'
      historicalSaleFinanceLedgerEntryId := stableChars_string_injective hsaleId hsaleId'
      transactions := stableChars_array_injective
        (fun _ _ _ hx hy => NormalizedTransaction.json_injective hx hy) htransactions htransactions'
      refundLines := stableChars_array_injective
        (fun _ _ _ hx hy => NormalizedRefundLine.json_injective hx hy) hlines hlines'
      supersededSaleLedgerIds := stableChars_array_injective
        (fun _ _ _ hx hy => stableChars_string_injective hx hy) hids hids' }

lemma SameText.json_eq {e e' : NormalizedRefundEvidence} (h : SameText e e') :
    e.normalizedEvidenceJson = e'.normalizedEvidenceJson := by
  simp only [normalizedEvidenceJson, normalizedOwnershipJson, h.sourceShopifyRefundId,
    h.vendorAllocationId, h.monetaryClassification, h.refundTotalAmount, h.currency,
    h.historicalEconomicVendorId, h.historicalSaleFinanceLedgerEntryId, h.transactions,
    h.refundLines, h.supersededSaleLedgerIds]

lemma wellFormed_json (e : NormalizedRefundEvidence) : WellFormed e.normalizedEvidenceJson := by
  have htransactions : ∀ t : NormalizedTransaction, WellFormed t.json := by
    intro t
    refine .object (by simp) fun f hf => ?_
    simp only [List.mem_cons, List.not_mem_nil, or_false] at hf
    rcases hf with rfl | rfl | rfl | rfl | rfl <;> exact .string _
  have hlines : ∀ l : NormalizedRefundLine, WellFormed l.json := by
    intro l
    refine .object (by simp) fun f hf => ?_
    simp only [List.mem_cons, List.not_mem_nil, or_false] at hf
    rcases hf with rfl | rfl | rfl | rfl
    · exact .string _
    · exact .number _
    · exact .string _
    · show WellFormed ((l.currency.map Value.string).getD .null)
      cases l.currency with
      | none => exact .null
      | some c => exact .string c
  have hownership : WellFormed e.normalizedOwnershipJson := by
    refine .object (by simp) fun f hf => ?_
    simp only [List.mem_cons, List.not_mem_nil, or_false] at hf
    rcases hf with rfl | rfl | rfl
    · exact .string _
    · exact .string _
    · refine .array fun v hv => ?_
      obtain ⟨id, -, rfl⟩ := List.mem_map.mp hv
      exact .string id
  refine .object (by simp) fun f hf => ?_
  simp only [List.mem_cons, List.not_mem_nil, or_false] at hf
  rcases hf with rfl | rfl | rfl | rfl | rfl | rfl | rfl | rfl | rfl
  · exact .number _
  · exact .string _
  · exact .string _
  · exact .string _
  · exact .string _
  · exact .string _
  · refine .array fun v hv => ?_
    obtain ⟨t, -, rfl⟩ := List.mem_map.mp hv
    exact htransactions t
  · refine .array fun v hv => ?_
    obtain ⟨l, -, rfl⟩ := List.mem_map.mp hv
    exact hlines l
  · exact hownership

end NormalizedRefundEvidence

/-! ## The fingerprint -/

namespace NormalizesEvidence

variable {x y : ResolvedRefundEvidenceInput} {out out' : NormalizedRefundEvidence}

lemma sameText_iff (h : NormalizesEvidence sha256 x out) (h' : NormalizesEvidence sha256 y out') :
    out.SameText out' ↔ SameEvidence x y := by
  constructor
  · intro hsame
    exact
      { sourceShopifyRefundId := by
          rw [← h.sourceShopifyRefundId, hsame.sourceShopifyRefundId, h'.sourceShopifyRefundId]
        vendorAllocationId := by
          rw [← h.vendorAllocationId, hsame.vendorAllocationId, h'.vendorAllocationId]
        currency := by rw [← h.currency, hsame.currency, h'.currency]
        historicalEconomicVendorId := by
          rw [← h.historicalEconomicVendorId, hsame.historicalEconomicVendorId,
            h'.historicalEconomicVendorId]
        historicalSaleFinanceLedgerEntryId := by
          rw [← h.historicalSaleFinanceLedgerEntryId, hsame.historicalSaleFinanceLedgerEntryId,
            h'.historicalSaleFinanceLedgerEntryId]
        refundTotalAmount := (h.refundTotalAmount_eq_iff h').mp hsame.refundTotalAmount
        transactions := (h.transactions_eq_iff h').mp hsame.transactions
        refundLines := (h.refundLines_eq_iff h').mp hsame.refundLines
        supersededSaleLedgerIds :=
          (h.supersededSaleLedgerIds_eq_iff h').mp hsame.supersededSaleLedgerIds }
  · intro hsame
    exact
      { sourceShopifyRefundId := by
          rw [h.sourceShopifyRefundId, hsame.sourceShopifyRefundId, h'.sourceShopifyRefundId]
        vendorAllocationId := by
          rw [h.vendorAllocationId, hsame.vendorAllocationId, h'.vendorAllocationId]
        monetaryClassification := by rw [h.monetaryClassification, h'.monetaryClassification]
        refundTotalAmount := (h.refundTotalAmount_eq_iff h').mpr hsame.refundTotalAmount
        currency := by rw [h.currency, hsame.currency, h'.currency]
        historicalEconomicVendorId := by
          rw [h.historicalEconomicVendorId, hsame.historicalEconomicVendorId,
            h'.historicalEconomicVendorId]
        historicalSaleFinanceLedgerEntryId := by
          rw [h.historicalSaleFinanceLedgerEntryId, hsame.historicalSaleFinanceLedgerEntryId,
            h'.historicalSaleFinanceLedgerEntryId]
        transactions := (h.transactions_eq_iff h').mpr hsame.transactions
        refundLines := (h.refundLines_eq_iff h').mpr hsame.refundLines
        supersededSaleLedgerIds :=
          (h.supersededSaleLedgerIds_eq_iff h').mpr hsame.supersededSaleLedgerIds }

/-- The text that is hashed is the same exactly for the same evidence. -/
theorem stableJson_eq_iff (h : NormalizesEvidence sha256 x out)
    (h' : NormalizesEvidence sha256 y out') :
    stableJson out.normalizedEvidenceJson = stableJson out'.normalizedEvidenceJson ↔
      SameEvidence x y := by
  rw [← h.sameText_iff h']
  constructor
  · intro heq
    obtain ⟨text, htext, -⟩ := h.evidenceHash
    have htext' := heq.symm.trans htext
    obtain ⟨a, ha, rfl⟩ := Option.map_eq_some_iff.mp htext
    obtain ⟨b, hb, hba⟩ := Option.map_eq_some_iff.mp htext'
    obtain rfl := String.ofList_inj.mp hba
    exact NormalizedRefundEvidence.sameText_of_stableChars_eq ha hb
  · intro hsame
    rw [hsame.json_eq]

/-- A stored value is accepted with the fingerprint if it is the evidence with its fields in some
order. -/
theorem verify_iff (hsha : Function.Injective sha256) (h : NormalizesEvidence sha256 x out)
    (v : Value) :
    verifyNormalizedRefundEvidenceHash sha256 v out.evidenceHash out.hashAlgorithm = .ok true ↔
      KeyReordering out.normalizedEvidenceJson v := by
  obtain ⟨text, htext, hhash⟩ := h.evidenceHash
  rw [← StableJson.stableJson_eq_iff out.wellFormed_json htext]
  unfold verifyNormalizedRefundEvidenceHash
  rw [if_neg (not_not_intro h.hashAlgorithm), hhash]
  cases hv : stableJson v with
  | none =>
      simp only [getOrThrow, Except.map]
      exact ⟨fun hfail => (by cases hfail), fun hfail => (by cases hfail)⟩
  | some text' =>
      simp only [getOrThrow, Except.map, Except.ok.injEq, decide_eq_true_eq, Option.some.injEq]
      exact ⟨fun heq => hsha heq, fun heq => congrArg sha256 heq⟩

end NormalizesEvidence

/-- Accepted inputs have one text and one fingerprint exactly when they are the same evidence, and
the fingerprint accepts the evidence with the fields of its objects in any order and nothing
else. -/
theorem refundEvidenceFingerprint_faithful (hsha : Function.Injective sha256)
    {x y : ResolvedRefundEvidenceInput} {out out' : NormalizedRefundEvidence}
    (hx : normalizeRefundEvidence toUpperCase sha256 x = .ok out)
    (hy : normalizeRefundEvidence toUpperCase sha256 y = .ok out') :
    (stableJson out.normalizedEvidenceJson = stableJson out'.normalizedEvidenceJson ↔
      SameEvidence x y) ∧
    (out.evidenceHash = out'.evidenceHash ↔ SameEvidence x y) ∧
    ∀ v, verifyNormalizedRefundEvidenceHash sha256 v out.evidenceHash out.hashAlgorithm =
      .ok true ↔ KeyReordering out.normalizedEvidenceJson v := by
  have h := normalizeRefundEvidence_eq_ok hx
  have h' := normalizeRefundEvidence_eq_ok hy
  refine ⟨h.stableJson_eq_iff h', ?_, fun v => h.verify_iff hsha v⟩
  obtain ⟨text, htext, hhash⟩ := h.evidenceHash
  obtain ⟨text', htext', hhash'⟩ := h'.evidenceHash
  rw [← h.stableJson_eq_iff h', hhash, hhash', hsha.eq_iff, htext, htext', Option.some_inj]

/-! ## One refund in two spellings -/

def sampleInput : ResolvedRefundEvidenceInput :=
  { sourceShopifyRefundId := "refund-1"
    sourceShopifyOrderId := "order-1"
    vendorAllocationId := "allocation-1"
    monetaryClassification := "MONETARY_REFUND"
    refundTotalAmount := "+120.50"
    currency := "TRY"
    transactions := [⟨"transaction-2", "REFUND", "SUCCESS", "20.5", "TRY"⟩,
      ⟨"transaction-1", "REFUND", "SUCCESS", "100", "TRY"⟩]
    refundLines := [⟨"line-1", 2, "120.5", none⟩]
    historicalEconomicVendorId := "vendor-1"
    historicalSaleFinanceLedgerEntryId := "ledger-3"
    supersededSaleLedgerIds := ["ledger-2", "ledger-1"] }

/-- The refund with its lists in another order and its amounts in another spelling. -/
def respelledInput : ResolvedRefundEvidenceInput :=
  { sampleInput with
    refundTotalAmount := "120.5"
    transactions := [⟨"transaction-1", "REFUND", "SUCCESS", "100.00", "TRY"⟩,
      ⟨"transaction-2", "REFUND", "SUCCESS", "+20.50", "TRY"⟩]
    refundLines := [⟨"line-1", 2, "120.500", none⟩]
    supersededSaleLedgerIds := ["ledger-1", "ledger-2"] }

def sampleText : String := String.ofList <|
  ["\x7b\"currency\":", "\"TRY\",\"monetaryClassification\"", ":\"MONETARY_REFUND\",",
    "\"normalizationVersion\":", "1,\"ownership\":", "\x7b\"historicalEconomicVendorId\":",
    "\"vendor-1\",\"historicalSaleFina", "nceLedgerEntryId\":",
    "\"ledger-3\",\"supersededSaleLedg", "erIds\":[\"ledger-1\",", "\"ledger-2\"]\x7d,",
    "\"refundLines\":", "[\x7b\"currency\":", "null,\"quantity\":", "2,\"sourceLineItemId\":",
    "\"line-1\",\"subtotalAmount\":", "\"120.5\"\x7d],\"refundTotalAmount\":",
    "\"120.5\",\"sourceShopifyRefundId", "\":\"refund-1\",", "\"transactions\":",
    "[\x7b\"amount\":\"100\",", "\"currency\":\"TRY\",", "\"kind\":\"REFUND\",",
    "\"status\":\"SUCCESS\",", "\"transactionGid\":", "\"transaction-1\"\x7d,",
    "\x7b\"amount\":\"20.5\",", "\"currency\":\"TRY\",", "\"kind\":\"REFUND\",",
    "\"status\":\"SUCCESS\",", "\"transactionGid\":", "\"transaction-2\"\x7d],",
    "\"vendorAllocationId\":", "\"allocation-1\"\x7d"].flatMap String.toList

def sampleHash : String := "f063e92b6a93055843afe23910d5b2712da101cb4115c5f21c3cf969b2a1dfc6"

/-- A hash without collisions that agrees with the real one on the sample. -/
def sampleSha256 : String → String := Equiv.swap sampleText sampleHash

def sampleEvidence : NormalizedRefundEvidence :=
  { sourceShopifyRefundId := "refund-1"
    sourceShopifyOrderId := "order-1"
    vendorAllocationId := "allocation-1"
    monetaryClassification := "MONETARY_REFUND"
    refundTotalAmount := "120.5"
    currency := "TRY"
    historicalEconomicVendorId := "vendor-1"
    historicalSaleFinanceLedgerEntryId := "ledger-3"
    normalizedTransactionsJson := [⟨"transaction-1", "REFUND", "SUCCESS", "100", "TRY"⟩,
      ⟨"transaction-2", "REFUND", "SUCCESS", "20.5", "TRY"⟩]
    normalizedRefundLinesJson := [⟨"line-1", 2, "120.5", none⟩]
    supersededSaleLedgerIdsJson := ["ledger-1", "ledger-2"]
    evidenceHash := sampleHash
    hashAlgorithm := REFUND_EVIDENCE_HASH_ALGORITHM }

/-- What is accepted with one hash function is accepted with another that agrees with it on the text
of the evidence. -/
lemma normalizeRefundEvidence_congr {sha256' : String → String} {x : ResolvedRefundEvidenceInput}
    {out : NormalizedRefundEvidence} {text : String}
    (h : normalizeRefundEvidence toUpperCase sha256 x = .ok out)
    (htext : stableJson out.normalizedEvidenceJson = some text) (hsha : sha256' text = sha256 text) :
    normalizeRefundEvidence toUpperCase sha256' x = .ok out := by
  simp only [normalizeRefundEvidence, bind_eq_ok, pure_eq_ok, require_eq_ok,
    getOrThrow_eq_ok] at h ⊢
  obtain ⟨refundId, hrefundId, orderId, horderId, allocationId, hallocationId, vendorId, hvendorId,
    saleId, hsaleId, u, hclass, currency, hcurrency, total, htotal, w, hne, transactions,
    htransactions, lines, hlines, ids, hids, text', htext', rfl⟩ := h
  have hsame : text' = text := Option.some.inj (htext'.symm.trans htext)
  subst hsame
  rw [← hsha]
  exact ⟨refundId, hrefundId, orderId, horderId, allocationId, hallocationId, vendorId, hvendorId,
    saleId, hsaleId, u, hclass, currency, hcurrency, total, htotal, w, hne, transactions,
    htransactions, lines, hlines, ids, hids, text', htext', rfl⟩

/-- Both spellings have the real fingerprint of the refund. -/
theorem refundEvidenceFingerprint_faithful_sample : SameEvidence sampleInput respelledInput ∧
    ∀ v, verifyNormalizedRefundEvidenceHash sampleSha256 v sampleHash
      REFUND_EVIDENCE_HASH_ALGORITHM = .ok true ↔
      KeyReordering sampleEvidence.normalizedEvidenceJson v := by
  have htext : stableJson sampleEvidence.normalizedEvidenceJson = some sampleText := by
    have hchars : stableChars sampleEvidence.normalizedEvidenceJson = some sampleText.toList := by
      unfold sampleText
      rw [String.toList_ofList]
      decide +kernel
    rw [stableJson, hchars, Option.map_some, String.ofList_toList]
  have hsha : sampleSha256 sampleText = sampleHash := Equiv.swap_apply_left _ _
  have hx : normalizeRefundEvidence id sampleSha256 sampleInput = .ok sampleEvidence := by
    refine @normalizeRefundEvidence_congr id (fun _ => sampleHash) _ _ _ _ ?_ htext hsha
    decide +kernel
  have hy : normalizeRefundEvidence id sampleSha256 respelledInput = .ok sampleEvidence := by
    refine @normalizeRefundEvidence_congr id (fun _ => sampleHash) _ _ _ _ ?_ htext hsha
    decide +kernel
  have hfaithful := refundEvidenceFingerprint_faithful (Equiv.injective _) hx hy
  exact ⟨hfaithful.1.mp rfl, hfaithful.2.2⟩

end VendorDashboard.RefundEvidence

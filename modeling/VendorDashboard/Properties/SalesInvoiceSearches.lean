import VendorDashboard.Finance.SalesInvoiceSync

/-!
# The search among the provider's sales invoices

The provider lists up to five hundred invoices in pages of a hundred (`Serves`).  When the first
page reports the total count, the search reads them all; when it does not, the rows of the first
page stand for the count, and a full page ends the reading.  So the search is exact iff the count is
reported or the later pages do not decide (`salesInvoiceSearch_exact_iff`).  What is then written
never replaces an invoice number or an invoice id by another one.

Which of the invoices is that of a record is said by what it shows as its ids and UUIDs
(`IsInvoiceOf`), and `invoiceMatchesRecord_iff` is that the source compares just these.
-/

namespace VendorDashboard.Finance.SalesInvoiceSync

open Text

variable {toLowerCase : String → String} {toNumber : String → Option ℚ} {isDate : String → Bool}

/-! ## The reading of the pages -/

/-- The provider answers with the invoices in consecutive pages, and a count that it reports is
theirs. -/
structure Serves (toNumber : String → Option ℚ) (list : ℕ → LogoIsbasiRawResult)
    (invoices : List Json) : Prop where
  answered : ∀ page < MAX_PAGES,
    (list (page + 1)).ok = true ∧ (list (page + 1)).jsonParseFailed = false
  rows : ∀ page < MAX_PAGES, extractProviderRows (list (page + 1)).body =
    (invoices.drop (PAGE_SIZE * page)).take PAGE_SIZE
  count : ∀ page < MAX_PAGES, ∀ n, reportedCount toNumber (list (page + 1)).body = some n →
    n = invoices.length

section Pages

variable {list : ℕ → LogoIsbasiRawResult} {invoices : List Json}

/-- What is read of a page, after those before it. -/
lemma fetchPagesAfter_succ (hserves : Serves toNumber list invoices) {page : ℕ}
    (hpage : page < MAX_PAGES) (left : ℕ) (total : ℚ) :
    let read := invoices.take (PAGE_SIZE * (page + 1))
    let total' := max total (extractProviderCount toNumber (list (page + 1)).body read.length)
    fetchPagesAfter toNumber list (left + 1) page (invoices.take (PAGE_SIZE * page)) total =
      if invoices.length < PAGE_SIZE * (page + 1) ∨ total' ≤ read.length then
        .ok ⟨read, total', page + 1⟩
      else fetchPagesAfter toNumber list left (page + 1) read total' := by
  intro read total'
  obtain ⟨hok, hparsed⟩ := hserves.answered page hpage
  have hread : invoices.take (PAGE_SIZE * page) ++
      (invoices.drop (PAGE_SIZE * page)).take PAGE_SIZE = read := by
    show _ = invoices.take (PAGE_SIZE * (page + 1))
    rw [Nat.mul_succ, List.take_add]
  have hfull : ((invoices.drop (PAGE_SIZE * page)).take PAGE_SIZE).length < PAGE_SIZE ↔
      invoices.length < PAGE_SIZE * (page + 1) := by
    rw [List.length_take, List.length_drop]
    simp only [PAGE_SIZE]
    omega
  have hcontinues : (!(list (page + 1)).ok || (list (page + 1)).jsonParseFailed) = false := by
    rw [hok, hparsed]
    rfl
  rw [fetchPagesAfter]
  simp only [hcontinues, Bool.false_eq_true, if_false, hserves.rows page hpage, hread, hfull]
  rfl

/-- With the count in hand, every page is read that is not empty. -/
lemma fetchPagesAfter_counted (hserves : Serves toNumber list invoices)
    (hlength : invoices.length ≤ PAGE_SIZE * MAX_PAGES) :
    ∀ left page : ℕ, left + page = MAX_PAGES → ∀ total : ℚ,
      total = invoices.length ∨
        total = 0 ∧ reportedCount toNumber (list (page + 1)).body = some invoices.length ∧
          0 < left →
      ∃ pages, fetchPagesAfter toNumber list left page (invoices.take (PAGE_SIZE * page)) total =
        .ok pages ∧ pages.rows = invoices
  | 0, page, hleft, total, htotal => by
      refine ⟨_, rfl, ?_⟩
      have hpage : page = MAX_PAGES := by omega
      subst hpage
      exact List.take_of_length_le hlength
  | left + 1, page, hleft, total, htotal => by
      have hpage : page < MAX_PAGES := by omega
      have htake : ((invoices.take (PAGE_SIZE * (page + 1))).length : ℚ) ≤ invoices.length := by
        exact_mod_cast List.length_take_le' _ _
      have htotal' : max total (extractProviderCount toNumber (list (page + 1)).body
          (invoices.take (PAGE_SIZE * (page + 1))).length) = invoices.length := by
        unfold extractProviderCount
        rcases htotal with rfl | ⟨rfl, hreported, -⟩
        · cases hcount : reportedCount toNumber (list (page + 1)).body with
          | none => exact max_eq_left htake
          | some n =>
              rw [hserves.count page hpage n hcount]
              exact max_self _
        · rw [hreported]
          exact max_eq_right (Nat.cast_nonneg _)
      rw [fetchPagesAfter_succ hserves hpage left total, htotal']
      split
      · rename_i hends
        refine ⟨_, rfl, ?_⟩
        apply List.take_of_length_le
        rcases hends with hshort | hall
        · exact hshort.le
        · rw [List.length_take] at hall
          have hle : invoices.length ≤ min (PAGE_SIZE * (page + 1)) invoices.length := by
            exact_mod_cast hall
          exact le_trans hle (min_le_left _ _)
      · exact fetchPagesAfter_counted hserves hlength left (page + 1) (by omega) _ (Or.inl rfl)

/-- Without a count the reading ends with the first page. -/
lemma fetchPagesAfter_uncounted (hserves : Serves toNumber list invoices)
    (hnone : reportedCount toNumber (list 1).body = none) :
    ∃ pages, fetchPagesAfter toNumber list MAX_PAGES 0 [] 0 = .ok pages ∧
      pages.rows = invoices.take PAGE_SIZE := by
  have hfirst := fetchPagesAfter_succ hserves (show 0 < MAX_PAGES by decide) 4 0
  have hcount : extractProviderCount toNumber (list (0 + 1)).body
      (invoices.take (PAGE_SIZE * (0 + 1))).length =
        (invoices.take (PAGE_SIZE * (0 + 1))).length := by
    unfold extractProviderCount
    rw [Nat.zero_add, hnone]
    rfl
  have hmax : max (0 : ℚ) (invoices.take (PAGE_SIZE * (0 + 1))).length =
      (invoices.take (PAGE_SIZE * (0 + 1))).length := max_eq_right (Nat.cast_nonneg _)
  simp only [hcount, hmax, le_refl, or_true, if_true, Nat.mul_zero, List.take_zero] at hfirst
  exact ⟨_, hfirst, rfl⟩

/-- The invoices that the search reads. -/
def searched (toNumber : String → Option ℚ) (list : ℕ → LogoIsbasiRawResult)
    (invoices : List Json) : List Json :=
  if (reportedCount toNumber (list 1).body).isSome then invoices else invoices.take PAGE_SIZE

lemma fetchSalesInvoicePages_rows (hserves : Serves toNumber list invoices)
    (hlength : invoices.length ≤ PAGE_SIZE * MAX_PAGES) :
    ∃ pages, fetchSalesInvoicePages toNumber list = .ok pages ∧
      pages.rows = searched toNumber list invoices := by
  have hread : ∃ pages, fetchPagesAfter toNumber list MAX_PAGES 0 [] 0 = .ok pages ∧
      pages.rows = searched toNumber list invoices := by
    unfold searched
    cases hcount : reportedCount toNumber (list 1).body with
    | none => exact fetchPagesAfter_uncounted hserves hcount
    | some n =>
        have hn := hserves.count 0 (by decide) n hcount
        exact fetchPagesAfter_counted hserves hlength MAX_PAGES 0 rfl 0
          (Or.inr ⟨rfl, hcount.trans (congrArg some hn), by decide⟩)
  obtain ⟨pages, hpages, hrows⟩ := hread
  refine ⟨{ pages with
    totalProviderCount := if pages.totalProviderCount = 0 then pages.rows.length
      else pages.totalProviderCount }, ?_, hrows⟩
  unfold fetchSalesInvoicePages
  rw [hpages]
  rfl

end Pages

/-! ## The invoice of a record -/

/-- A string that is not blank says what is left without the blanks around it, a number itself. -/
inductive Says : Json → String → Prop
  | string {s : String} : trim s ≠ "" → Says (.string s) (trim s)
  | number (text : TrimmedText) : Says (.number (some text)) text.val

/-- What the invoice says under the first of the names under which it says something. -/
inductive SaysUnder (invoice : Json) : List String → String → Prop
  | here {name : String} {names : List String} {value : Json} {text : String} :
      invoice.field? name = some value → Says value text → SaysUnder invoice (name :: names) text
  | later {name : String} {names : List String} {text : String} :
      (∀ value ∈ invoice.field? name, ∀ t, ¬ Says value t) → SaysUnder invoice names text →
        SaysUnder invoice (name :: names) text

/-- The two texts are the same up to case and blanks, and not blank. -/
def SameText (toLowerCase : String → String) (a b : String) : Prop :=
  toLowerCase (trim a) = toLowerCase (trim b) ∧ toLowerCase (trim b) ≠ ""

/-- One of the ids of the invoice is that of the record, or one of its UUIDs. -/
def IsInvoiceOf (toLowerCase : String → String) (record : ProviderIdentifiers) (invoice : Json) :
    Prop :=
  (∃ id ∈ record.providerInvoiceId, ∃ names ∈ [["id"], ["invoiceId"], ["salesInvoiceId"]],
    ∃ text, SaysUnder invoice names text ∧ SameText toLowerCase text id) ∨
  ∃ uuid ∈ record.providerUuid, ∃ names ∈ [["uuid", "UUID"], ["uuId", "UuId"]],
    ∃ text, SaysUnder invoice names text ∧ SameText toLowerCase text uuid

lemma readString_eq_some {value : Json} {text : String} :
    value.readString = some text ↔ Says value text := by
  constructor
  · intro h
    cases value with
    | string s =>
        simp only [Json.readString, Json.readText] at h
        split at h
        · cases h
        · rename_i hne
          obtain rfl := Option.some.inj h
          exact .string hne
    | number t =>
        obtain ⟨t, rfl, rfl⟩ := Option.map_eq_some_iff.mp h
        exact .number t
    | null => cases h
    | bool b => cases h
    | array items => cases h
    | object fields => cases h
  · rintro (hne | t)
    · simp only [Json.readString, Json.readText, if_neg hne]
    · rfl

lemma readRecordString_eq_some {invoice : Json} {names : List String} {text : String} :
    invoice.readRecordString names = some text ↔ SaysUnder invoice names text := by
  have hread : ∀ {name : String} {t : String}, (invoice.field? name).bind Json.readString = some t ↔
      ∃ value, invoice.field? name = some value ∧ Says value t := fun {name t} => by
    simp only [Option.bind_eq_some_iff, readString_eq_some]
  unfold Json.readRecordString
  induction names with
  | nil =>
      constructor
      · intro h
        cases h
      · intro h
        cases h
  | cons name names ih =>
      rw [List.findSome?_cons]
      cases hname : (invoice.field? name).bind Json.readString with
      | some t =>
          obtain ⟨value, hvalue, hsays⟩ := hread.mp hname
          constructor
          · intro h
            obtain rfl := Option.some.inj h
            exact .here hvalue hsays
          · rintro (⟨hvalue', hsays'⟩ | ⟨hnone, -⟩)
            · rw [← hname, hread.mpr ⟨_, hvalue', hsays'⟩]
            · exact absurd hsays (hnone value hvalue t)
      | none =>
          have hnone : ∀ value ∈ invoice.field? name, ∀ t, ¬ Says value t := by
            intro value hvalue t hsays
            have hsome := hread.mpr ⟨value, hvalue, hsays⟩
            rw [hname] at hsome
            cases hsome
          refine ih.trans ⟨.later hnone, ?_⟩
          rintro (⟨hvalue, hsays⟩ | ⟨-, hlater⟩)
          · exact absurd hsays (hnone _ hvalue _)
          · exact hlater

lemma normalizeComparable_eq_some {value : Option String} {text : String} :
    normalizeComparable toLowerCase value = some text ↔
      ∃ v ∈ value, toLowerCase (trim v) = text ∧ text ≠ "" := by
  simp only [normalizeComparable, Option.filter_eq_some_iff, Option.map_eq_some_iff,
    Option.mem_def, decide_eq_true_eq]
  constructor
  · rintro ⟨⟨v, hv, heq⟩, hne⟩
    exact ⟨v, hv, heq, hne⟩
  · rintro ⟨v, hv, heq, hne⟩
    exact ⟨⟨v, hv, heq⟩, hne⟩

lemma matchesIdentifier_iff {invoice : Json} {identifier : Option String}
    (names : List (List String)) :
    matchesIdentifier toLowerCase identifier (names.map invoice.readRecordString) = true ↔
      ∃ id ∈ identifier, ∃ ns ∈ names, ∃ text, SaysUnder invoice ns text ∧
        SameText toLowerCase text id := by
  simp only [matchesIdentifier, Option.any_eq_true, List.any_eq_true, List.mem_map,
    decide_eq_true_eq, normalizeComparable_eq_some, Option.mem_def]
  constructor
  · rintro ⟨wanted, ⟨id, hid, rfl, hne⟩, -, ⟨ns, hns, rfl⟩, text, htext, hsame, -⟩
    exact ⟨id, hid, ns, hns, text, readRecordString_eq_some.mp htext, hsame, hne⟩
  · rintro ⟨id, hid, ns, hns, text, htext, hsame, hne⟩
    exact ⟨_, ⟨id, hid, rfl, hne⟩, _, ⟨ns, hns, rfl⟩, text, readRecordString_eq_some.mpr htext, hsame,
      hne⟩

/-- **The source compares the ids and the UUIDs.** -/
theorem invoiceMatchesRecord_iff {record : ProviderIdentifiers} {invoice : Json} :
    invoiceMatchesRecord toLowerCase invoice record = true ↔
      IsInvoiceOf toLowerCase record invoice := by
  unfold invoiceMatchesRecord
  rw [Bool.or_eq_true]
  exact or_congr (matchesIdentifier_iff [["id"], ["invoiceId"], ["salesInvoiceId"]])
    (matchesIdentifier_iff [["uuid", "UUID"], ["uuId", "UuId"]])

instance (toLowerCase : String → String) (record : ProviderIdentifiers) (invoice : Json) :
    Decidable (IsInvoiceOf toLowerCase record invoice) :=
  decidable_of_iff _ invoiceMatchesRecord_iff

/-! ## The answer of the search -/

/-- The listed invoices that are that of the record. -/
def matching (toLowerCase : String → String) (record : CommissionInvoiceRecord)
    (invoices : List Json) : List Json :=
  invoices.filter fun invoice => decide (IsInvoiceOf toLowerCase record.identifiers invoice)

lemma filter_invoiceMatchesRecord (record : CommissionInvoiceRecord) (rows : List Json) :
    (rows.filter fun row => invoiceMatchesRecord toLowerCase row record.identifiers) =
      matching toLowerCase record rows := by
  refine List.filter_congr fun row _ => ?_
  rw [Bool.eq_iff_iff, decide_eq_true_iff]
  exact invoiceMatchesRecord_iff

/-- The preview says how many of the invoices are that of the record: one, several or none. -/
structure SearchExact (preview : LogoOutgoingInvoiceSyncPreview) (matches' : ℕ) : Prop where
  matched : preview.search.matched = true ↔ matches' = 1
  ambiguous : preview.search.ambiguity = true ↔ 1 < matches'
  neither : preview.search.matched = false ∧ preview.search.ambiguity = false ↔ matches' = 0

/-- The provider can be asked about the record. -/
def Askable (client : LogoOutgoingInvoiceClient) (record : CommissionInvoiceRecord) : Prop :=
  record.status = .created ∧ getMissingEnv client.env = [] ∧ loginForLogoRead client.login = []

/-- The record has an id to be found by. -/
def HasProviderId (record : CommissionInvoiceRecord) : Prop :=
  isGiven record.identifiers.providerInvoiceId = true ∨
    isGiven record.identifiers.providerUuid = true

section Search

variable {client : LogoOutgoingInvoiceClient} {record : CommissionInvoiceRecord}
  {invoices : List Json}

lemma previewBlockers_eq_nil (hid : HasProviderId record) :
    previewBlockers client record = [] ↔ Askable client record := by
  unfold previewBlockers Askable
  have hgiven : (!isGiven record.identifiers.providerInvoiceId &&
      !isGiven record.identifiers.providerUuid) = false := by
    rcases hid with h | h <;> simp [h]
  by_cases hstatus : record.status = .created
  · by_cases henv : getMissingEnv client.env = []
    · simp [hstatus, hgiven, henv]
    · simp [hstatus, hgiven, henv]
  · simp [hstatus]

lemma searchExact_previewOf (pages : SalesInvoicePages) :
    SearchExact (previewOf toLowerCase record pages) (matching toLowerCase record pages.rows).length := by
  have hmatched : (previewOf toLowerCase record pages).search.matched = true ↔
      (matching toLowerCase record pages.rows).length = 1 := by
    rw [← filter_invoiceMatchesRecord]
    exact decide_eq_true_iff
  have hambiguous : (previewOf toLowerCase record pages).search.ambiguity = true ↔
      1 < (matching toLowerCase record pages.rows).length := by
    rw [← filter_invoiceMatchesRecord]
    exact decide_eq_true_iff
  refine ⟨hmatched, hambiguous, ?_⟩
  rw [← Bool.not_eq_true, ← Bool.not_eq_true, hmatched, hambiguous]
  omega

/-- Two numbers of matches that are answered alike. -/
lemma searchExact_iff {preview : LogoOutgoingInvoiceSyncPreview} {m n : ℕ}
    (h : SearchExact preview m) : SearchExact preview n ↔ min 2 m = min 2 n := by
  constructor
  · intro h'
    have hone := h.matched.symm.trans h'.matched
    have hmany := h.ambiguous.symm.trans h'.ambiguous
    omega
  · intro heq
    exact
      { matched := h.matched.trans (by omega)
        ambiguous := h.ambiguous.trans (by omega)
        neither := h.neither.trans (by omega) }

/-- What the search reads decides as all of the invoices do. -/
lemma min_matching_searched (toNumber : String → Option ℚ) (list : ℕ → LogoIsbasiRawResult) :
    min 2 (matching toLowerCase record (searched toNumber list invoices)).length =
        min 2 (matching toLowerCase record invoices).length ↔
      (reportedCount toNumber (list 1).body).isSome = true ∨
        matching toLowerCase record (invoices.drop PAGE_SIZE) = [] ∨
        1 < (matching toLowerCase record (invoices.take PAGE_SIZE)).length := by
  have hsplit : (matching toLowerCase record invoices).length =
      (matching toLowerCase record (invoices.take PAGE_SIZE)).length +
        (matching toLowerCase record (invoices.drop PAGE_SIZE)).length := by
    unfold matching
    rw [← List.length_append, ← List.filter_append, List.take_append_drop]
  have hnil : matching toLowerCase record (invoices.drop PAGE_SIZE) = [] ↔
      (matching toLowerCase record (invoices.drop PAGE_SIZE)).length = 0 := List.length_eq_zero_iff.symm
  unfold searched
  by_cases hcount : (reportedCount toNumber (list 1).body).isSome = true
  · simp [hcount]
  · rw [if_neg hcount, or_iff_right hcount, hnil, hsplit]
    omega

/-- The preview is exact iff there is nothing to find, or the provider can be asked and the pages
that are not read do not decide. -/
lemma previewSettlementLogoOutgoingInvoiceSync_exact_iff (hid : HasProviderId record)
    (hserves : Serves toNumber client.list invoices)
    (hlength : invoices.length ≤ PAGE_SIZE * MAX_PAGES) :
    (∃ preview,
      previewSettlementLogoOutgoingInvoiceSync toLowerCase toNumber client (some record) = .ok preview ∧
        SearchExact preview (matching toLowerCase record invoices).length) ↔
      matching toLowerCase record invoices = [] ∨ Askable client record ∧
        ((reportedCount toNumber (client.list 1).body).isSome = true ∨
          matching toLowerCase record (invoices.drop PAGE_SIZE) = [] ∨
          1 < (matching toLowerCase record (invoices.take PAGE_SIZE)).length) := by
  have hempty : matching toLowerCase record invoices = [] ↔ (matching toLowerCase record invoices).length = 0 :=
    List.length_eq_zero_iff.symm
  unfold previewSettlementLogoOutgoingInvoiceSync
  simp only
  by_cases hask : Askable client record
  · rw [if_neg (not_not.mpr ((previewBlockers_eq_nil hid).mpr hask))]
    obtain ⟨pages, hpages, hrows⟩ := fetchSalesInvoicePages_rows hserves hlength
    have hexact := @searchExact_previewOf toLowerCase record pages
    rw [hrows] at hexact
    have hmin := @min_matching_searched toLowerCase record invoices toNumber client.list
    rw [hpages]
    constructor
    · rintro ⟨preview, hpreview, h⟩
      obtain rfl := Except.ok.inj hpreview
      exact Or.inr ⟨hask, hmin.mp ((searchExact_iff hexact).mp h)⟩
    · intro h
      refine ⟨_, rfl, (searchExact_iff hexact).mpr (hmin.mpr ?_)⟩
      rcases h with hnone | ⟨-, h⟩
      · refine Or.inr (Or.inl ?_)
        unfold matching at hnone ⊢
        rw [List.filter_eq_nil_iff] at hnone ⊢
        exact fun a ha => hnone a (List.mem_of_mem_drop ha)
      · exact h
  · rw [if_pos (mt (previewBlockers_eq_nil hid).mp hask)]
    constructor
    · rintro ⟨preview, hpreview, h⟩
      obtain rfl := Except.ok.inj hpreview
      exact Or.inl (hempty.mpr (h.neither.mp ⟨rfl, rfl⟩))
    · rintro (hnone | ⟨h, -⟩)
      · refine ⟨_, rfl, ?_⟩
        rw [hempty.mp hnone]
        exact ⟨by simp [buildEmptyResult], by simp [buildEmptyResult], by simp [buildEmptyResult]⟩
      · exact absurd h hask

end Search

/-! ## What is written -/

/-- Neither the invoice number nor, up to case, the provider's id of the invoice is replaced by
another one. -/
def KeepsIdentifiers (toLowerCase : String → String) (before after : ProviderIdentifiers) : Prop :=
  (∀ invoiceNo ∈ before.invoiceNo, trim invoiceNo ≠ "" →
    ∃ invoiceNo' ∈ after.invoiceNo, trim invoiceNo' = trim invoiceNo) ∧
  ∀ id ∈ before.providerInvoiceId, trim id ≠ "" →
    ∃ id' ∈ after.providerInvoiceId, toLowerCase (trim id') = toLowerCase (trim id)

/-- The id of the invoice that was found is that of the record, or a text of the row. -/
lemma mapFields_providerInvoiceId {row : Json} {ids : ProviderIdentifiers} {id : String}
    (h : (mapFields row ids).1.providerInvoiceId = some id) :
    ids.providerInvoiceId = some id ∨ Json.readText id = some id := by
  have hread : ∀ keys, row.readRecordString keys = some id → Json.readText id = some id :=
    fun keys hkeys => Json.readText_of_readRecordString hkeys
  simp only [mapFields, rowIdentifiers, Option.or_eq_some_iff] at h
  rcases h with (h | ⟨-, h | ⟨-, h⟩⟩) | ⟨-, h⟩
  · exact Or.inr (hread _ h)
  · exact Or.inr (hread _ h)
  · exact Or.inr (hread _ h)
  · exact Or.inl h

/-- Without a conflict with what the record has, the update keeps it. -/
lemma apply_keepsIdentifiers (hlower : ∀ s, toLowerCase s = "" → s = "") {row : Json}
    {record : CommissionInvoiceRecord} (now : Instant) {status : String}
    {uuid documentStatus : Option String}
    (hno : hasInvoiceNoConflict (mapFields row record.identifiers).1.invoiceNo
      record.identifiers.invoiceNo = false)
    (hid : hasProviderInvoiceIdConflict toLowerCase
      (mapFields row record.identifiers).1.providerInvoiceId
      record.identifiers.providerInvoiceId = false) :
    KeepsIdentifiers toLowerCase record.identifiers (InvoiceReconciliation.apply ⟨status,
      { (mapFields row record.identifiers).1 with providerUuid := uuid }, documentStatus⟩
      record now record).identifiers := by
  constructor
  · intro invoiceNo hmem hne
    have hread : record.identifiers.invoiceNo.bind Json.readText = some (trim invoiceNo) := by
      rw [Option.mem_def.mp hmem, Option.bind_some, Json.readText, if_neg hne]
    simp only [InvoiceReconciliation.apply, hno, Bool.false_eq_true, if_false]
    cases hincoming : (mapFields row record.identifiers).1.invoiceNo.bind Json.readText with
    | none => exact ⟨invoiceNo, hmem, rfl⟩
    | some incoming =>
        rw [hasInvoiceNoConflict, hincoming, hread] at hno
        have heq : incoming = trim invoiceNo := by simpa using hno
        exact ⟨incoming, rfl, by rw [heq, trim_trim]⟩
  · intro id hmem hne
    simp only [InvoiceReconciliation.apply]
    cases hincoming : (mapFields row record.identifiers).1.providerInvoiceId with
    | none => exact ⟨id, hmem, rfl⟩
    | some incoming =>
        refine ⟨incoming, rfl, ?_⟩
        rcases mapFields_providerInvoiceId hincoming with hsame | hread
        · rw [Option.some.inj (hsame.symm.trans hmem)]
        · have hblank : trim incoming ≠ "" := by
            intro hblank
            rw [Json.readText, if_pos hblank] at hread
            cases hread
          have hcompared : ∀ {t : String}, trim t ≠ "" →
              normalizeComparable toLowerCase (some t) = some (toLowerCase (trim t)) :=
            fun ht => normalizeComparable_eq_some.mpr ⟨_, rfl, rfl, mt (hlower _) ht⟩
          rw [hasProviderInvoiceIdConflict, hincoming, Option.mem_def.mp hmem, hcompared hne,
            hcompared hblank] at hid
          exact (by simpa using hid : toLowerCase (trim id) = toLowerCase (trim incoming)).symm

section Persist

variable {client : LogoOutgoingInvoiceClient} {record : CommissionInvoiceRecord}

lemma preview_record {preview : LogoOutgoingInvoiceSyncPreview}
    (h : previewSettlementLogoOutgoingInvoiceSync toLowerCase toNumber client (some record) = .ok preview) :
    preview.record = some record.identifiers ∧ (preview.search.matched = true →
      ∃ row, preview.mappedFields = mapFields row record.identifiers) := by
  unfold previewSettlementLogoOutgoingInvoiceSync at h
  simp only at h
  split at h
  · obtain rfl := Except.ok.inj h
    exact ⟨rfl, fun hmatched => absurd hmatched (by simp [buildEmptyResult])⟩
  · cases hpages : fetchSalesInvoicePages toNumber client.list with
    | error message =>
        rw [hpages] at h
        cases h
    | ok pages =>
        rw [hpages] at h
        obtain rfl := Except.ok.inj h
        refine ⟨rfl, fun hmatched => ?_⟩
        have hlength := decide_eq_true_iff.mp hmatched
        obtain ⟨row, hrow⟩ := List.length_eq_one_iff.mp hlength
        refine ⟨row, ?_⟩
        simp only [previewOf, hrow]
        rfl

/-- **What is written keeps the identifiers.** -/
theorem persistSettlementLogoSalesInvoiceSync_keeps
    (hlower : ∀ s, toLowerCase s = "" → s = "") {syncedBy : Option String} {now : Instant}
    {result : PersistSettlementLogoSalesInvoiceSyncResult} {written : CommissionInvoiceRecord}
    (h : persistSettlementLogoSalesInvoiceSync toLowerCase toNumber isDate client syncedBy now (some record) =
      .ok result) (hwritten : result.record = some written) :
    KeepsIdentifiers toLowerCase record.identifiers written.identifiers := by
  unfold persistSettlementLogoSalesInvoiceSync at h
  obtain ⟨preview, hpreview, h⟩ := Transaction.bind_eq_ok.mp h
  obtain ⟨hrecord, hmapped⟩ := preview_record hpreview
  have hblocked : ∀ blockers, (pure ⟨blockers, none⟩ :
      Except String PersistSettlementLogoSalesInvoiceSyncResult) ≠ .ok result := by
    intro blockers hpure
    rw [← Except.ok.inj hpure] at hwritten
    cases hwritten
  -- every branch but the last is blocked
  split at h
  · exact absurd h (hblocked _)
  split at h
  · exact absurd h (hblocked _)
  split at h
  · exact absurd h (hblocked _)
  rename_i hmatched
  obtain ⟨row, hrow⟩ := hmapped (by simpa using hmatched)
  simp only [hrow, hrecord, Option.getD_some] at h
  split at h
  · exact absurd h (hblocked _)
  rename_i hno
  split at h
  · exact absurd h (hblocked _)
  rename_i hid
  obtain ⟨existing, hexisting, h⟩ := Transaction.bind_eq_ok.mp h
  obtain rfl := Except.ok.inj hexisting
  obtain ⟨updated, hupdated, h⟩ := Transaction.bind_eq_ok.mp h
  rw [← Except.ok.inj h] at hwritten
  obtain rfl := Option.some.inj hwritten
  unfold applySalesInvoice at hupdated
  obtain ⟨_, -, hupdated⟩ := Transaction.bind_eq_ok.mp hupdated
  obtain ⟨_, -, hupdated⟩ := Transaction.bind_eq_ok.mp hupdated
  obtain rfl := Except.ok.inj hupdated
  exact apply_keepsIdentifiers hlower now (eq_false_of_ne_true hno) (eq_false_of_ne_true hid)

end Persist

/-! ## Exactness -/

/-- **When the search is exact.**  Of at most five hundred invoices, served in pages of a hundred,
the preview finds the one of the record, or says that there are several or none, iff there is none,
or the provider can be asked and reports the count, or what comes after the first page does not
decide.  What is written keeps the identifiers of the record. -/
theorem salesInvoiceSearch_exact_iff (hlower : ∀ s, toLowerCase s = "" → s = "")
    {client : LogoOutgoingInvoiceClient} {record : CommissionInvoiceRecord} {invoices : List Json}
    (hid : HasProviderId record)
    (hserves : Serves toNumber client.list invoices) (hlength : invoices.length ≤ 500) :
    ((∃ preview,
        previewSettlementLogoOutgoingInvoiceSync toLowerCase toNumber client (some record) = .ok preview ∧
          SearchExact preview (matching toLowerCase record invoices).length) ∧
      ∀ syncedBy now result written,
        persistSettlementLogoSalesInvoiceSync toLowerCase toNumber isDate client syncedBy now (some record) =
          .ok result → result.record = some written →
            KeepsIdentifiers toLowerCase record.identifiers written.identifiers) ↔
      matching toLowerCase record invoices = [] ∨ Askable client record ∧
        ((reportedCount toNumber (client.list 1).body).isSome = true ∨
          matching toLowerCase record (invoices.drop PAGE_SIZE) = [] ∨
          1 < (matching toLowerCase record (invoices.take PAGE_SIZE)).length) := by
  have hexact := @previewSettlementLogoOutgoingInvoiceSync_exact_iff toLowerCase _ _ _ _ hid hserves
    hlength
  refine ⟨fun h => hexact.mp h.1, fun h => ⟨hexact.mpr h, ?_⟩⟩
  intro syncedBy now result written hresult hwritten
  exact persistSettlementLogoSalesInvoiceSync_keeps hlower hresult hwritten

/-! ## An invoice of the second page -/

section Sample

lemma eq_empty_of_toLowerCase {s : String} (h : Text.toLowerCase s = "") : s = "" := by
  have hlist : s.toList.flatMap lowerChar = [] := by
    have htoList := congrArg String.toList h
    rwa [Text.toLowerCase, String.toList_ofList] at htoList
  have hnil : s.toList = [] := by
    rw [List.eq_nil_iff_forall_not_mem]
    intro c hc
    have hc' : lowerChar c = [] := List.flatMap_eq_nil_iff.mp hlist c hc
    unfold lowerChar at hc'
    split_ifs at hc'
  rw [← String.ofList_toList (s := s), hnil]

/-- A record of the invoice `INV-1`. -/
def sampleRecord : CommissionInvoiceRecord :=
  { pendingRecord 1 1 "vendor-1" .null 0 with
    status := .created
    identifiers := ⟨some "INV-1", none, none, none⟩ }

def sampleEnv : LogoEnv :=
  ⟨true, some "test", none, some "https://logo.example", some "key", some "user", some "password"⟩

/-- The invoices are served as the data of the answer, with the count `total` if there is one. -/
def sampleClient (total : Option String) (invoices : List Json) : LogoOutgoingInvoiceClient where
  env := sampleEnv
  login := ⟨true, false, ["tenantId"]⟩
  list page := ⟨200, .object (("data",
    .array ((invoices.drop (PAGE_SIZE * (page - 1))).take PAGE_SIZE)) ::
      total.toList.map fun n => ("total", .string n)), false⟩

def sampleInvoice (id : String) : Json := .object [("id", .string id)]

/-- A hundred other invoices come before the one of the record. -/
def sampleInvoices : List Json := List.replicate 100 (sampleInvoice "other") ++
  [sampleInvoice " inv-1 "]

def sampleNumber (s : String) : Option ℚ := if s = "101" then some 101 else none

lemma sampleClient_serves {total : Option String} (htotal : ∀ n ∈ total, n = "101") :
    Serves sampleNumber (sampleClient total sampleInvoices).list sampleInvoices where
  answered _ _ := ⟨rfl, rfl⟩
  rows page _ := by
    have hrecord : ∀ i ∈ sampleInvoices, i.isRecord = true := by
      intro i hi
      rcases List.mem_append.mp hi with h | h
      · rw [List.eq_of_mem_replicate h]
        rfl
      · rw [List.mem_singleton.mp h]
        rfl
    have hbody : extractProviderRows ((sampleClient total sampleInvoices).list (page + 1)).body =
        ((sampleInvoices.drop (PAGE_SIZE * (page + 1 - 1))).take PAGE_SIZE).filter Json.isRecord := by
      cases total <;> rfl
    rw [hbody, Nat.add_sub_cancel]
    refine List.filter_eq_self.mpr fun i hi => ?_
    exact hrecord i (List.mem_of_mem_drop (List.mem_of_mem_take hi))
  count page _ n hn := by
    cases total with
    | none =>
        have hnone : reportedCount sampleNumber
            ((sampleClient none sampleInvoices).list (page + 1)).body = none := rfl
        rw [hnone] at hn
        cases hn
    | some t =>
        obtain rfl := htotal t rfl
        have hsome : reportedCount sampleNumber
            ((sampleClient (some "101") sampleInvoices).list (page + 1)).body = some 101 := rfl
        rw [hsome] at hn
        obtain rfl := Option.some.inj hn
        rfl

lemma sampleMatching_length :
    (matching Text.toLowerCase sampleRecord sampleInvoices).length = 1 := by
  decide +kernel

/-- With the count in hand the invoice is found on the second page. -/
theorem salesInvoiceSearch_exact_sample : ∃ preview,
    previewSettlementLogoOutgoingInvoiceSync Text.toLowerCase sampleNumber
      (sampleClient (some "101") sampleInvoices) (some sampleRecord) = .ok preview ∧
      SearchExact preview 1 := by
  have hiff := @salesInvoiceSearch_exact_iff Text.toLowerCase sampleNumber
    (fun _ => true) (fun _ => eq_empty_of_toLowerCase)
    (sampleClient (some "101") sampleInvoices) sampleRecord _ (Or.inl (by decide +kernel))
    (sampleClient_serves (by simp)) (by decide +kernel)
  rw [sampleMatching_length] at hiff
  exact (hiff.mpr (Or.inr ⟨⟨rfl, by decide +kernel, by decide +kernel⟩, Or.inl rfl⟩)).1

/-- Without the count the invoice, the last of a hundred and one, is not found. -/
theorem salesInvoiceSearch_not_exact :
    Serves sampleNumber (sampleClient none sampleInvoices).list sampleInvoices ∧
      sampleInvoices.length = 101 ∧ (matching Text.toLowerCase sampleRecord sampleInvoices).length = 1 ∧
      ∃ preview, previewSettlementLogoOutgoingInvoiceSync Text.toLowerCase sampleNumber
        (sampleClient none sampleInvoices) (some sampleRecord) = .ok preview ∧
          preview.search.matched = false ∧ preview.search.pagesChecked = 1 := by
  refine ⟨sampleClient_serves (by simp), by decide +kernel, sampleMatching_length, ?_⟩
  have hsome : ((previewSettlementLogoOutgoingInvoiceSync Text.toLowerCase sampleNumber
      (sampleClient none sampleInvoices) (some sampleRecord)).toOption.map fun preview =>
        (preview.search.matched, preview.search.pagesChecked)) = some (false, 1) := by
    decide +kernel
  obtain ⟨preview, hpreview, hsearch⟩ := Option.map_eq_some_iff.mp hsome
  obtain ⟨hmatched, hpages⟩ := Prod.mk.inj hsearch
  exact ⟨preview, Transaction.toOption_eq_some.mp hpreview, hmatched, hpages⟩

end Sample

end VendorDashboard.Finance.SalesInvoiceSync

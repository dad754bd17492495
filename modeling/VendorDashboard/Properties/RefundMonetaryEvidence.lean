import VendorDashboard.Shopify.RefundMonetaryEvidence

/-!
# The account of refunded money

What `classifyCanonicalRefundMonetaryEvidence` answers, said without its loops: the transactions of
an order are a set, and so are those of each refund.  `Verdict` is the answer and `account` its
specification over these sets; `classify_eq_account` says that the code computes it.

Two things are asked of a collection.  Its sums have at most `PRECISION` digits (`Fits`), as the
decimal library rounds them otherwise, and the words that the code joins to compare two
transactions do not contain the character it joins them with (`Unambiguous`).
-/

namespace VendorDashboard.Shopify

open Decimal Table Text

variable {toUpperCase : String → String}

/-! ## Fingerprints -/

/-- Two texts that end at their first separator. -/
lemma append_separator_injective {s t u v : List Char} {c : Char} (hs : c ∉ s) (ht : c ∉ t)
    (h : s ++ c :: u = t ++ c :: v) : s = t ∧ u = v := by
  induction s generalizing t with
  | nil =>
      cases t with
      | nil => exact ⟨rfl, (List.cons.inj h).2⟩
      | cons d t => exact absurd ((List.cons.inj h).1 ▸ List.mem_cons_self) ht
  | cons d s ih =>
      cases t with
      | nil => exact absurd ((List.cons.inj h).1 ▸ List.mem_cons_self) hs
      | cons e t =>
          obtain ⟨rfl, hrest⟩ := List.cons.inj h
          obtain ⟨rfl, rfl⟩ := ih (fun hmem => hs (List.mem_cons_of_mem _ hmem))
            (fun hmem => ht (List.mem_cons_of_mem _ hmem)) hrest
          exact ⟨rfl, rfl⟩

/-- What two transactions that count as the same have in common. -/
structure SameEvidence (u v : UniqueTransaction) : Prop where
  kind : u.kind = v.kind
  status : u.status = v.status
  decimal : u.money.decimal = v.money.decimal
  currency : u.money.currency = v.money.currency

/-- The words that are joined do not contain the character between them. -/
structure NoSeparator (u : UniqueTransaction) : Prop where
  kind : '|' ∉ u.kind.toList
  status : '|' ∉ u.status.toList
  currency : '|' ∉ u.money.currency.toList

lemma parseMoney_eq_some {amount currency : Option String} {money : ParsedMoney}
    (h : parseMoney toUpperCase amount currency = some money) :
    ∃ text : DecimalText, money.decimal = text.value ∧ money.amount = text.plainText := by
  unfold parseMoney at h
  obtain ⟨text, -, htext⟩ := Option.bind_eq_some_iff.mp h
  split at htext
  · cases htext
  · obtain rfl := Option.some.inj htext
    exact ⟨text, rfl, rfl⟩

lemma normalizeTransaction_eq_some {t : RefundTransaction} {p : String × UniqueTransaction}
    (h : normalizeTransaction toUpperCase t = some p) :
    p.1 = trim t.transactionGid ∧ p.2.source = t ∧
      (∃ text : DecimalText, p.2.money.decimal = text.value ∧
        p.2.money.amount = text.plainText) ∧
      p.2.fingerprint = fingerprintOf p.2.kind p.2.status p.2.money.amount p.2.money.currency
        (t.parentTransactionGid.getD "") := by
  unfold normalizeTransaction at h
  obtain ⟨money, hmoney, hp⟩ := Option.bind_eq_some_iff.mp h
  split at hp
  · cases hp
  · obtain rfl := Option.some.inj hp
    exact ⟨rfl, rfl, parseMoney_eq_some hmoney, rfl⟩

lemma separator_notMem_amount (text : DecimalText) : '|' ∉ text.plainText.toList := by
  intro hmem
  rcases DecimalText.mem_plainText hmem with hdigit | hminus | hpoint
  · exact absurd hdigit (by decide)
  · exact absurd hminus (by decide)
  · exact absurd hpoint (by decide)

/-- Transactions with one fingerprint are the same evidence. -/
lemma sameEvidence_of_fingerprint {t t' : RefundTransaction} {p q : String × UniqueTransaction}
    (hp : normalizeTransaction toUpperCase t = some p)
    (hq : normalizeTransaction toUpperCase t' = some q) (hp' : NoSeparator p.2)
    (hq' : NoSeparator q.2) (h : p.2.fingerprint = q.2.fingerprint) : SameEvidence p.2 q.2 := by
  obtain ⟨-, -, ⟨x, hx, hxtext⟩, hfp⟩ := normalizeTransaction_eq_some hp
  obtain ⟨-, -, ⟨y, hy, hytext⟩, hfq⟩ := normalizeTransaction_eq_some hq
  rw [hfp, hfq, hxtext, hytext] at h
  have hlist := congrArg String.toList h
  have hbar : ("|" : String).toList = ['|'] := rfl
  simp only [fingerprintOf, String.toList_append, hbar, List.append_assoc, List.singleton_append]
    at hlist
  obtain ⟨hkind, hlist⟩ := append_separator_injective hp'.kind hq'.kind hlist
  obtain ⟨hstatus, hlist⟩ := append_separator_injective hp'.status hq'.status hlist
  obtain ⟨hamount, hlist⟩ := append_separator_injective (separator_notMem_amount x)
    (separator_notMem_amount y) hlist
  obtain ⟨hcurrency, -⟩ := append_separator_injective hp'.currency hq'.currency hlist
  refine ⟨String.toList_inj.mp hkind, String.toList_inj.mp hstatus, ?_,
    String.toList_inj.mp hcurrency⟩
  rw [hx, hy, ← DecimalText.plainText_eq_iff]
  exact String.toList_inj.mp hamount

/-! ## The transactions of an order -/

variable (toUpperCase)

/-- The transactions that are not malformed, each as often as it is listed. -/
def entries (transactions : List RefundTransaction) : List (String × UniqueTransaction) :=
  transactions.filterMap (normalizeTransaction toUpperCase)

namespace RefundCollection

variable (c : RefundCollection)

def allTransactions : List RefundTransaction := c.refunds.flatMap (·.transactions)

def allEntries : List (String × UniqueTransaction) := entries toUpperCase c.allTransactions

/-- Kinds, statuses and currencies do not contain the separator of fingerprints. -/
def Unambiguous : Prop := ∀ p ∈ c.allEntries toUpperCase, NoSeparator p.2

end RefundCollection

variable {toUpperCase}

lemma mem_entries {transactions : List RefundTransaction} {p : String × UniqueTransaction} :
    p ∈ entries toUpperCase transactions ↔
      ∃ t ∈ transactions, normalizeTransaction toUpperCase t = some p :=
  List.mem_filterMap

/-- What the first loop knows after some of the transactions. -/
structure Collected (toUpperCase : String → String) (orderTotal : ParsedMoney)
    (transactions : List RefundTransaction) (st : CollectedTransactions) : Prop where
  key : KeyUnique Prod.fst st.uniqueTransactions
  subset : ∀ p ∈ st.uniqueTransactions, p ∈ entries toUpperCase transactions
  covers : ∀ p ∈ entries toUpperCase transactions, ∃ q ∈ st.uniqueTransactions, q.1 = p.1
  conflict : st.duplicateConflict = true ↔ ∃ p ∈ entries toUpperCase transactions,
    ∃ q ∈ st.uniqueTransactions, q.1 = p.1 ∧ q.2.fingerprint ≠ p.2.fingerprint
  malformed : st.malformedTransaction = true ↔
    ∃ t ∈ transactions, normalizeTransaction toUpperCase t = none
  positiveVoid : st.positiveVoid = true ↔ ∃ p ∈ st.uniqueTransactions, p.2.IsPositiveVoid
  currencyMismatch : st.currencyMismatch = true ↔
    ∃ p ∈ st.uniqueTransactions, p.2.money.currency ≠ orderTotal.currency
  nonFinal : 0 < st.nonFinalTransactionCount ↔ ∃ p ∈ st.uniqueTransactions, p.2.IsNonFinalRefund

lemma Collected.empty (orderTotal : ParsedMoney) :
    Collected toUpperCase orderTotal [] .empty := by
  constructor <;> simp [CollectedTransactions.empty, KeyUnique, entries]

lemma entries_concat (transactions : List RefundTransaction) (t : RefundTransaction) :
    entries toUpperCase (transactions ++ [t]) =
      entries toUpperCase transactions ++ (normalizeTransaction toUpperCase t).toList := by
  unfold entries
  rw [List.filterMap_append]
  cases hnorm : normalizeTransaction toUpperCase t <;> simp [hnorm]

section Step

variable {orderTotal : ParsedMoney} {transactions : List RefundTransaction}
  {st : CollectedTransactions} {t : RefundTransaction} {p : String × UniqueTransaction}

lemma malformed_concat (hnorm : normalizeTransaction toUpperCase t = some p) :
    (∃ t' ∈ transactions, normalizeTransaction toUpperCase t' = none) ↔
      ∃ t' ∈ transactions ++ [t], normalizeTransaction toUpperCase t' = none := by
  constructor
  · rintro ⟨t', ht', hnone⟩
    exact ⟨t', List.mem_append_left _ ht', hnone⟩
  · rintro ⟨t', ht', hnone⟩
    rcases List.mem_append.mp ht' with ht' | ht'
    · exact ⟨t', ht', hnone⟩
    · rw [List.mem_singleton.mp ht', hnorm] at hnone
      cases hnone

/-- A malformed transaction. -/
lemma Collected.step_malformed (h : Collected toUpperCase orderTotal transactions st)
    (hnorm : normalizeTransaction toUpperCase t = none) :
    Collected toUpperCase orderTotal (transactions ++ [t])
      { st with malformedTransaction := true } := by
  have hentries : entries toUpperCase (transactions ++ [t]) = entries toUpperCase transactions := by
    rw [entries_concat, hnorm, Option.toList_none, List.append_nil]
  constructor
  · exact h.key
  · rw [hentries]
    exact h.subset
  · rw [hentries]
    exact h.covers
  · rw [hentries]
    exact h.conflict
  · exact ⟨fun _ => ⟨t, List.mem_append_right _ (List.mem_singleton_self t), hnorm⟩, fun _ => rfl⟩
  · exact h.positiveVoid
  · exact h.currencyMismatch
  · exact h.nonFinal

/-- A transaction whose identifier was met before. -/
lemma Collected.step_duplicate (h : Collected toUpperCase orderTotal transactions st)
    (hnorm : normalizeTransaction toUpperCase t = some p) {q : String × UniqueTransaction}
    (hq : q ∈ st.uniqueTransactions) (hkey : q.1 = p.1) :
    Collected toUpperCase orderTotal (transactions ++ [t])
      { st with
        duplicateTransactionCount := st.duplicateTransactionCount + 1
        duplicateConflict := st.duplicateConflict ||
          decide (q.2.fingerprint ≠ p.2.fingerprint) } := by
  have hentries : ∀ p', p' ∈ entries toUpperCase (transactions ++ [t]) ↔
      p' ∈ entries toUpperCase transactions ∨ p' = p := by
    intro p'
    rw [entries_concat, hnorm, Option.toList_some, List.mem_append, List.mem_singleton]
  constructor
  · exact h.key
  · exact fun q' hq' => (hentries q').mpr (Or.inl (h.subset q' hq'))
  · intro p' hp'
    rcases (hentries p').mp hp' with hp' | rfl
    · exact h.covers p' hp'
    · exact ⟨q, hq, hkey⟩
  · rw [Bool.or_eq_true, h.conflict, decide_eq_true_eq]
    constructor
    · rintro (⟨p', hp', hq'⟩ | hne)
      · exact ⟨p', (hentries p').mpr (Or.inl hp'), hq'⟩
      · exact ⟨p, (hentries p).mpr (Or.inr rfl), q, hq, hkey, hne⟩
    · rintro ⟨p', hp', q', hq', hkey', hne⟩
      rcases (hentries p').mp hp' with hp' | rfl
      · exact Or.inl ⟨p', hp', q', hq', hkey', hne⟩
      · rw [h.key.eq hq' hq (hkey'.trans hkey.symm)] at hne
        exact Or.inr hne
  · exact h.malformed.trans (malformed_concat hnorm)
  · exact h.positiveVoid
  · exact h.currencyMismatch
  · exact h.nonFinal

lemma exists_mem_concat {α : Type*} {l : List α} {x : α} {P : α → Prop} :
    (∃ y ∈ l ++ [x], P y) ↔ (∃ y ∈ l, P y) ∨ P x := by
  constructor
  · rintro ⟨y, hy, hP⟩
    rcases List.mem_append.mp hy with hy | hy
    · exact Or.inl ⟨y, hy, hP⟩
    · exact Or.inr (List.mem_singleton.mp hy ▸ hP)
  · rintro (⟨y, hy, hP⟩ | hP)
    · exact ⟨y, List.mem_append_left _ hy, hP⟩
    · exact ⟨x, List.mem_append_right _ (List.mem_singleton_self x), hP⟩

/-- A transaction with a new identifier. -/
lemma Collected.step_new (h : Collected toUpperCase orderTotal transactions st)
    (hnorm : normalizeTransaction toUpperCase t = some p)
    (hnew : ∀ q ∈ st.uniqueTransactions, q.1 ≠ p.1) :
    Collected toUpperCase orderTotal (transactions ++ [t])
      { st with
        uniqueTransactions := st.uniqueTransactions ++ [p]
        nonFinalTransactionCount := st.nonFinalTransactionCount +
          if p.2.IsNonFinalRefund then 1 else 0
        positiveVoid := st.positiveVoid || decide p.2.IsPositiveVoid
        currencyMismatch := st.currencyMismatch ||
          decide (p.2.money.currency ≠ orderTotal.currency) } := by
  have hentries : ∀ p', p' ∈ entries toUpperCase (transactions ++ [t]) ↔
      p' ∈ entries toUpperCase transactions ∨ p' = p := by
    intro p'
    rw [entries_concat, hnorm, Option.toList_some, List.mem_append, List.mem_singleton]
  constructor
  · refine keyUnique_append.mpr ⟨h.key, by simp [KeyUnique], fun q hq p' hp' => ?_⟩
    rw [List.mem_singleton.mp hp']
    exact hnew q hq
  · intro q hq
    rcases List.mem_append.mp hq with hq | hq
    · exact (hentries q).mpr (Or.inl (h.subset q hq))
    · exact (hentries q).mpr (Or.inr (List.mem_singleton.mp hq))
  · intro p' hp'
    rcases (hentries p').mp hp' with hp' | rfl
    · obtain ⟨q, hq, hkey⟩ := h.covers p' hp'
      exact ⟨q, List.mem_append_left _ hq, hkey⟩
    · exact ⟨p', List.mem_append_right _ (List.mem_singleton_self p'), rfl⟩
  · rw [h.conflict]
    constructor
    · rintro ⟨p', hp', q, hq, hkey, hne⟩
      exact ⟨p', (hentries p').mpr (Or.inl hp'), q, List.mem_append_left _ hq, hkey, hne⟩
    · rintro ⟨p', hp', q, hq, hkey, hne⟩
      rcases (hentries p').mp hp' with hp' | rfl
      · rcases List.mem_append.mp hq with hq | hq
        · exact ⟨p', hp', q, hq, hkey, hne⟩
        · obtain ⟨q', hq', hkey'⟩ := h.covers p' hp'
          rw [List.mem_singleton.mp hq] at hkey
          exact absurd (hkey'.trans hkey.symm) (hnew q' hq')
      · rcases List.mem_append.mp hq with hq | hq
        · exact absurd hkey (hnew q hq)
        · rw [List.mem_singleton.mp hq] at hne
          exact absurd rfl hne
  · exact h.malformed.trans (malformed_concat hnorm)
  · rw [exists_mem_concat, Bool.or_eq_true, decide_eq_true_eq, h.positiveVoid]
  · rw [exists_mem_concat, Bool.or_eq_true, decide_eq_true_eq, h.currencyMismatch]
  · rw [exists_mem_concat, ← h.nonFinal]
    split
    · rename_i hnonFinal
      exact ⟨fun _ => Or.inr hnonFinal, fun _ => Nat.succ_pos _⟩
    · rename_i hfinal
      exact ⟨fun hpos => Or.inl hpos, fun hor => hor.elim id fun hn => absurd hn hfinal⟩

/-- One transaction. -/
lemma Collected.step (h : Collected toUpperCase orderTotal transactions st)
    (t : RefundTransaction) : Collected toUpperCase orderTotal (transactions ++ [t])
      (collectTransaction toUpperCase orderTotal st t) := by
  unfold collectTransaction
  cases hnorm : normalizeTransaction toUpperCase t with
  | none => exact h.step_malformed hnorm
  | some p =>
      simp only
      cases hfind : findRow Prod.fst p.1 st.uniqueTransactions with
      | some q => exact h.step_duplicate hnorm (mem_of_findRow hfind) (key_of_findRow hfind)
      | none => exact h.step_new hnorm (findRow_eq_none.mp hfind)

end Step

lemma collected_foldl (orderTotal : ParsedMoney) (transactions : List RefundTransaction) :
    Collected toUpperCase orderTotal transactions
      (transactions.foldl (collectTransaction toUpperCase orderTotal) .empty) := by
  induction transactions using List.reverseRecOn with
  | nil => exact Collected.empty orderTotal
  | append_singleton transactions t ih =>
      rw [List.foldl_append, List.foldl_cons, List.foldl_nil]
      exact ih.step t

/-- What the first loop knows in the end. -/
lemma collected_collectTransactions (orderTotal : ParsedMoney) (c : RefundCollection) :
    Collected toUpperCase orderTotal c.allTransactions
      (collectTransactions toUpperCase orderTotal c.refunds) :=
  collected_foldl orderTotal c.allTransactions

/-! ## Transactions as a set -/

variable (toUpperCase)

namespace RefundCollection

variable (c : RefundCollection)

def Conflicting : Prop := ∃ p ∈ c.allEntries toUpperCase, ∃ q ∈ c.allEntries toUpperCase,
  q.1 = p.1 ∧ q.2.fingerprint ≠ p.2.fingerprint

def Malformed : Prop := ∃ t ∈ c.allTransactions, normalizeTransaction toUpperCase t = none

/-- Some transaction is of a kind. -/
def HasTransaction (P : UniqueTransaction → Prop) : Prop := ∃ p ∈ c.allEntries toUpperCase, P p.2

/-- Transactions with one identifier are the same evidence. -/
def Consistent : Prop := ∀ p ∈ c.allEntries toUpperCase, ∀ q ∈ c.allEntries toUpperCase,
  q.1 = p.1 → SameEvidence q.2 p.2

end RefundCollection

/-- The distinct successful refunds of money among some transactions, with their amounts. -/
def supports (transactions : List RefundTransaction) : List (String × ℚ) :=
  (((entries toUpperCase transactions).filter fun p => decide p.2.IsSuccessfulRefund).map
    entryOf).dedup

/-- What the distinct successful refunds add up to. -/
def refunded (transactions : List RefundTransaction) : ℚ :=
  ((supports toUpperCase transactions).map Prod.snd).sum

variable {toUpperCase}

section Sets

variable {c : RefundCollection}

lemma RefundCollection.consistent (hbars : c.Unambiguous toUpperCase)
    (h : ¬ c.Conflicting toUpperCase) : c.Consistent toUpperCase := by
  intro p hp q hq hkey
  obtain ⟨t, -, ht⟩ := mem_entries.mp hp
  obtain ⟨t', -, ht'⟩ := mem_entries.mp hq
  refine sameEvidence_of_fingerprint ht' ht (hbars q hq) (hbars p hp) ?_
  by_contra hne
  exact h ⟨p, hp, q, hq, hkey, hne⟩

lemma Collected.conflict_iff {orderTotal : ParsedMoney} {st : CollectedTransactions}
    (h : Collected toUpperCase orderTotal c.allTransactions st) :
    st.duplicateConflict = true ↔ c.Conflicting toUpperCase := by
  rw [h.conflict]
  constructor
  · rintro ⟨p, hp, q, hq, hkey, hne⟩
    exact ⟨p, hp, q, h.subset q hq, hkey, hne⟩
  · rintro ⟨p, hp, q, hq, hkey, hne⟩
    obtain ⟨r, hr, hrkey⟩ := h.covers p hp
    by_cases hrp : r.2.fingerprint = p.2.fingerprint
    · exact ⟨q, hq, r, hr, hrkey.trans hkey.symm, fun hrq => hne (hrq.symm.trans hrp)⟩
    · exact ⟨p, hp, r, hr, hrkey, hrp⟩

/-- What depends on the evidence only can be asked of the first transactions. -/
lemma Collected.exists_iff {orderTotal : ParsedMoney} {st : CollectedTransactions}
    (h : Collected toUpperCase orderTotal c.allTransactions st)
    (hconsistent : c.Consistent toUpperCase) {P : UniqueTransaction → Prop}
    (hP : ∀ u v, SameEvidence u v → P v → P u) :
    (∃ p ∈ st.uniqueTransactions, P p.2) ↔ c.HasTransaction toUpperCase P := by
  constructor
  · rintro ⟨p, hp, hPp⟩
    exact ⟨p, h.subset p hp, hPp⟩
  · rintro ⟨p, hp, hPp⟩
    obtain ⟨q, hq, hkey⟩ := h.covers p hp
    exact ⟨q, hq, hP _ _ (hconsistent p hp q (h.subset q hq) hkey) hPp⟩

lemma SameEvidence.isPositiveVoid {u v : UniqueTransaction} (h : SameEvidence u v)
    (hv : v.IsPositiveVoid) : u.IsPositiveVoid :=
  ⟨h.kind.trans hv.1, h.decimal ▸ hv.2⟩

lemma SameEvidence.isNonFinalRefund {u v : UniqueTransaction} (h : SameEvidence u v)
    (hv : v.IsNonFinalRefund) : u.IsNonFinalRefund :=
  ⟨h.kind.trans hv.1, h.status ▸ hv.2⟩

lemma SameEvidence.isSuccessfulRefund {u v : UniqueTransaction} (h : SameEvidence u v)
    (hv : v.IsSuccessfulRefund) : u.IsSuccessfulRefund :=
  ⟨h.kind.trans hv.1, h.status.trans hv.2.1, h.decimal ▸ hv.2.2⟩

lemma SameEvidence.isZeroVoid {u v : UniqueTransaction} (h : SameEvidence u v)
    (hv : v.IsZeroVoid) : u.IsZeroVoid :=
  ⟨h.kind.trans hv.1, h.status.trans hv.2.1, h.decimal.trans hv.2.2⟩

lemma SameEvidence.symm {u v : UniqueTransaction} (h : SameEvidence u v) : SameEvidence v u :=
  ⟨h.kind.symm, h.status.symm, h.decimal.symm, h.currency.symm⟩

/-! ## The transactions of one refund -/

lemma mem_localTransactions {unique : List (String × UniqueTransaction)}
    (hkey : KeyUnique Prod.fst unique) {transactions : List RefundTransaction}
    {p : String × UniqueTransaction} : p ∈ localTransactions unique transactions ↔
      p ∈ unique ∧ ∃ t ∈ transactions, trim t.transactionGid = p.1 := by
  unfold localTransactions
  rw [List.mem_filterMap]
  constructor
  · rintro ⟨id, hid, hfind⟩
    obtain ⟨t, ht, htid⟩ := List.mem_map.mp (List.mem_eraseDups.mp hid)
    exact ⟨mem_of_findRow hfind, t, ht, htid.trans (key_of_findRow hfind).symm⟩
  · rintro ⟨hp, t, ht, htid⟩
    refine ⟨p.1, List.mem_eraseDups.mpr (List.mem_map.mpr ⟨t, ht, htid⟩), ?_⟩
    exact findRow_of_mem hkey hp

lemma keyUnique_localTransactions (unique : List (String × UniqueTransaction))
    (transactions : List RefundTransaction) :
    KeyUnique Prod.fst (localTransactions unique transactions) := by
  have hsub : ∀ ids : List String, (((ids.filterMap fun id => findRow Prod.fst id unique).map
      Prod.fst).Sublist ids) := by
    intro ids
    induction ids with
    | nil => exact List.Sublist.refl []
    | cons id ids ih =>
        cases hfind : findRow Prod.fst id unique with
        | none =>
            simp only [List.filterMap_cons, hfind]
            exact ih.cons id
        | some p =>
            simp only [List.filterMap_cons, hfind, List.map_cons, key_of_findRow hfind]
            exact ih.cons_cons id
  exact (nodup_eraseDups _).sublist (hsub _)

/-- The entries of the refunds of money among the transactions of one refund. -/
def positiveEntries (unique : List (String × UniqueTransaction))
    (transactions : List RefundTransaction) : List (String × ℚ) :=
  ((localTransactions unique transactions).filter fun p => decide p.2.IsSuccessfulRefund).map
    entryOf

lemma mem_positiveEntries {unique : List (String × UniqueTransaction)}
    (hkey : KeyUnique Prod.fst unique) {transactions : List RefundTransaction} {e : String × ℚ} :
    e ∈ positiveEntries unique transactions ↔ ∃ p ∈ unique, p.2.IsSuccessfulRefund ∧
      entryOf p = e ∧ ∃ t ∈ transactions, trim t.transactionGid = p.1 := by
  unfold positiveEntries
  simp only [List.mem_map, List.mem_filter, decide_eq_true_eq, mem_localTransactions hkey]
  constructor
  · rintro ⟨p, ⟨⟨hp, ht⟩, hrefund⟩, he⟩
    exact ⟨p, hp, hrefund, he, ht⟩
  · rintro ⟨p, hp, hrefund, he, ht⟩
    exact ⟨p, ⟨⟨hp, ht⟩, hrefund⟩, he⟩

lemma keyUnique_positiveEntries (unique : List (String × UniqueTransaction))
    (transactions : List RefundTransaction) :
    KeyUnique Prod.fst (positiveEntries unique transactions) := by
  unfold KeyUnique positiveEntries
  rw [List.map_map]
  exact (keyUnique_localTransactions unique transactions).sublist
    (List.filter_sublist.map Prod.fst)

lemma mem_supports {transactions : List RefundTransaction} {e : String × ℚ} :
    e ∈ supports toUpperCase transactions ↔ ∃ p ∈ entries toUpperCase transactions,
      p.2.IsSuccessfulRefund ∧ entryOf p = e := by
  unfold supports
  simp only [List.mem_dedup, List.mem_map, List.mem_filter, decide_eq_true_eq, and_assoc]

lemma nodup_supports (transactions : List RefundTransaction) :
    (supports toUpperCase transactions).Nodup := List.nodup_dedup _

lemma supports_pos {transactions : List RefundTransaction} {e : String × ℚ}
    (h : e ∈ supports toUpperCase transactions) : 0 < e.2 := by
  obtain ⟨p, -, hrefund, rfl⟩ := mem_supports.mp h
  exact hrefund.2.2

lemma refunded_nonneg (transactions : List RefundTransaction) :
    0 ≤ refunded toUpperCase transactions :=
  List.sum_nonneg fun x hx => by
    obtain ⟨e, he, rfl⟩ := List.mem_map.mp hx
    exact (supports_pos he).le

/-- The entries that the code sums are the distinct refunds of money. -/
lemma positiveEntries_perm {orderTotal : ParsedMoney} {st : CollectedTransactions}
    (h : Collected toUpperCase orderTotal c.allTransactions st)
    (hconsistent : c.Consistent toUpperCase) (hwell : ¬ c.Malformed toUpperCase)
    {transactions : List RefundTransaction} (hsub : transactions ⊆ c.allTransactions) :
    (positiveEntries st.uniqueTransactions transactions).Perm
      (supports toUpperCase transactions) := by
  have hnodup : (positiveEntries st.uniqueTransactions transactions).Nodup :=
    (keyUnique_positiveEntries _ _).of_map Prod.fst
  rw [List.perm_ext_iff_of_nodup hnodup (nodup_supports transactions)]
  intro e
  rw [mem_positiveEntries h.key, mem_supports]
  constructor
  · rintro ⟨p, hp, hrefund, rfl, t, ht, htid⟩
    cases hnorm : normalizeTransaction toUpperCase t with
    | none => exact absurd ⟨t, hsub ht, hnorm⟩ hwell
    | some q =>
        have hq : q ∈ c.allEntries toUpperCase := mem_entries.mpr ⟨t, hsub ht, hnorm⟩
        have hkey : p.1 = q.1 := by
          rw [← htid]
          exact (normalizeTransaction_eq_some hnorm).1.symm
        have hsame := hconsistent q hq p (h.subset p hp) hkey
        refine ⟨q, mem_entries.mpr ⟨t, ht, hnorm⟩, hsame.symm.isSuccessfulRefund hrefund, ?_⟩
        exact Prod.ext hkey.symm hsame.decimal.symm
  · rintro ⟨q, hq, hrefund, rfl⟩
    obtain ⟨t, ht, hnorm⟩ := mem_entries.mp hq
    have hq' : q ∈ c.allEntries toUpperCase := mem_entries.mpr ⟨t, hsub ht, hnorm⟩
    obtain ⟨p, hp, hkey⟩ := h.covers q hq'
    have hsame := hconsistent q hq' p (h.subset p hp) hkey
    refine ⟨p, hp, hsame.isSuccessfulRefund hrefund, Prod.ext hkey hsame.decimal, t, ht, ?_⟩
    rw [hkey]
    exact (normalizeTransaction_eq_some hnorm).1.symm

/-- A refund has a void of nothing among its transactions. -/
lemma countP_isZeroVoid_pos_iff {orderTotal : ParsedMoney} {st : CollectedTransactions}
    (h : Collected toUpperCase orderTotal c.allTransactions st)
    (hconsistent : c.Consistent toUpperCase) (hwell : ¬ c.Malformed toUpperCase)
    {transactions : List RefundTransaction} (hsub : transactions ⊆ c.allTransactions) :
    0 < (localTransactions st.uniqueTransactions transactions).countP
        (fun p => decide p.2.IsZeroVoid) ↔
      ∃ p ∈ entries toUpperCase transactions, p.2.IsZeroVoid := by
  rw [List.countP_pos_iff]
  constructor
  · rintro ⟨p, hp, hvoid⟩
    obtain ⟨hp, t, ht, htid⟩ := (mem_localTransactions h.key).mp hp
    cases hnorm : normalizeTransaction toUpperCase t with
    | none => exact absurd ⟨t, hsub ht, hnorm⟩ hwell
    | some q =>
        have hq : q ∈ c.allEntries toUpperCase := mem_entries.mpr ⟨t, hsub ht, hnorm⟩
        have hkey : p.1 = q.1 := by
          rw [← htid]
          exact (normalizeTransaction_eq_some hnorm).1.symm
        have hsame := hconsistent q hq p (h.subset p hp) hkey
        exact ⟨q, mem_entries.mpr ⟨t, ht, hnorm⟩,
          hsame.symm.isZeroVoid (of_decide_eq_true hvoid)⟩
  · rintro ⟨q, hq, hvoid⟩
    obtain ⟨t, ht, hnorm⟩ := mem_entries.mp hq
    have hq' : q ∈ c.allEntries toUpperCase := mem_entries.mpr ⟨t, hsub ht, hnorm⟩
    obtain ⟨p, hp, hkey⟩ := h.covers q hq'
    have hsame := hconsistent q hq' p (h.subset p hp) hkey
    refine ⟨p, (mem_localTransactions h.key).mpr ⟨hp, t, ht, ?_⟩,
      decide_eq_true (hsame.isZeroVoid hvoid)⟩
    rw [hkey]
    exact (normalizeTransaction_eq_some hnorm).1.symm

end Sets

/-! ## The refunds -/

lemma mem_setEntry {entries : List (String × ℚ)} {e x : String × ℚ}
    (h : ∀ e' ∈ entries, e'.1 = e.1 → e' = e) :
    x ∈ setEntry entries e ↔ x ∈ entries ∨ x = e := by
  unfold setEntry
  split
  · rename_i hmem
    obtain ⟨e', he', hkey⟩ := List.mem_map.mp hmem
    have hin : e ∈ entries := h e' he' hkey ▸ he'
    have hsame : updateWhere (fun e' => decide (e'.1 = e.1)) (fun _ => e) entries = entries := by
      unfold updateWhere
      conv_rhs => rw [← List.map_id entries]
      refine List.map_congr_left fun y hy => ?_
      by_cases hyk : y.1 = e.1
      · simp [h y hy hyk]
      · simp [hyk]
    rw [hsame]
    exact ⟨Or.inl, fun hor => hor.elim id fun heq => heq ▸ hin⟩
  · rw [List.mem_append, List.mem_singleton]

lemma keyUnique_setEntry {entries : List (String × ℚ)} (h : KeyUnique Prod.fst entries)
    (e : String × ℚ) : KeyUnique Prod.fst (setEntry entries e) := by
  unfold setEntry
  split
  · unfold KeyUnique updateWhere
    rw [List.map_map]
    have hkeys : (Prod.fst ∘ fun x : String × ℚ => if decide (x.1 = e.1) then e else x) =
        Prod.fst := by
      funext x
      by_cases hx : x.1 = e.1 <;> simp [hx]
    rw [hkeys]
    exact h
  · rename_i hnew
    refine keyUnique_append.mpr ⟨h, by simp [KeyUnique], fun x hx y hy hxy => ?_⟩
    rw [List.mem_singleton.mp hy] at hxy
    exact hnew (List.mem_map.mpr ⟨x, hx, hxy⟩)

/-- Entries that agree on their keys are collected as a set. -/
lemma foldl_setEntry {S : Set (String × ℚ)} (hS : ∀ a ∈ S, ∀ b ∈ S, a.1 = b.1 → a = b)
    {es : List (String × ℚ)} (hes : ∀ e ∈ es, e ∈ S) {entries : List (String × ℚ)}
    (hkey : KeyUnique Prod.fst entries) (hentries : ∀ e ∈ entries, e ∈ S) :
    KeyUnique Prod.fst (es.foldl setEntry entries) ∧
      ∀ x, x ∈ es.foldl setEntry entries ↔ x ∈ entries ∨ x ∈ es := by
  induction es generalizing entries with
  | nil => exact ⟨hkey, fun x => by simp⟩
  | cons e es ih =>
      have he : e ∈ S := hes e List.mem_cons_self
      have hmem : ∀ x, x ∈ setEntry entries e ↔ x ∈ entries ∨ x = e := fun x =>
        mem_setEntry fun e' he' hk => hS e' (hentries e' he') e he hk
      obtain ⟨hkey', hiff⟩ := ih (fun x hx => hes x (List.mem_cons_of_mem _ hx))
        (keyUnique_setEntry hkey e) fun x hx => by
          rcases (hmem x).mp hx with hx | rfl
          · exact hentries x hx
          · exact he
      refine ⟨hkey', fun x => ?_⟩
      rw [List.foldl_cons, hiff, hmem, List.mem_cons, or_assoc]

variable (toUpperCase)

namespace RefundSnapshot

variable (refund : RefundSnapshot)

/-- The total of a refund is missing, malformed or in another currency. -/
def ForeignTotal (orderTotal : ParsedMoney) : Prop :=
  ∀ total, refund.total toUpperCase = some total → total.currency ≠ orderTotal.currency

/-- The sum that the code computes for a refund. -/
def localAmount (unique : List (String × UniqueTransaction)) : ℚ :=
  sumDecimals ((positiveEntries unique refund.transactions).map Prod.snd)

/-- The result that the code has for a refund, if any. -/
def result (orderTotal : ParsedMoney) (unique : List (String × UniqueTransaction)) :
    Option RefundItemMonetaryEvidence :=
  (refund.total toUpperCase).bind fun total =>
    if total.currency = orderTotal.currency ∧ refund.localAmount unique = total.decimal then
      some (itemResult refund total.currency (refund.localAmount unique)
        ((localTransactions unique refund.transactions).filter
          fun p => decide p.2.IsSuccessfulRefund)
        ((localTransactions unique refund.transactions).countP fun p => decide p.2.IsZeroVoid))
    else none

end RefundSnapshot

/-- What the second loop knows after some of the refunds. -/
structure Summed (orderTotal : ParsedMoney) (unique : List (String × UniqueTransaction))
    (refunds : List RefundSnapshot) (st : SummedRefunds) : Prop where
  results : st.perRefundResults = refunds.filterMap fun r => r.result toUpperCase orderTotal unique
  currencyMismatch : st.currencyMismatch = true ↔
    ∃ r ∈ refunds, r.ForeignTotal toUpperCase orderTotal
  aggregateMismatch : st.aggregateMismatch = true ↔ ∃ r ∈ refunds, ∃ total,
    r.total toUpperCase = some total ∧ total.currency = orderTotal.currency ∧
      r.localAmount unique ≠ total.decimal
  key : KeyUnique Prod.fst st.globalSuccessfulRefunds
  subset : ∀ e ∈ st.globalSuccessfulRefunds, ∃ r ∈ refunds,
    e ∈ positiveEntries unique r.transactions
  covers : ∀ r ∈ refunds, ¬ r.ForeignTotal toUpperCase orderTotal →
    ∀ e ∈ positiveEntries unique r.transactions, e ∈ st.globalSuccessfulRefunds

variable {toUpperCase}

lemma Summed.empty (orderTotal : ParsedMoney) (unique : List (String × UniqueTransaction)) :
    Summed toUpperCase orderTotal unique [] .empty := by
  constructor <;> simp [SummedRefunds.empty, KeyUnique]

section SumStep

variable {orderTotal : ParsedMoney} {unique : List (String × UniqueTransaction)}
  {refunds : List RefundSnapshot} {st : SummedRefunds} {refund : RefundSnapshot}

/-- A refund whose total is foreign. -/
lemma Summed.step_foreign (h : Summed toUpperCase orderTotal unique refunds st)
    (hforeign : refund.ForeignTotal toUpperCase orderTotal) :
    Summed toUpperCase orderTotal unique (refunds ++ [refund])
      { st with currencyMismatch := true } := by
  have hresult : refund.result toUpperCase orderTotal unique = none := by
    unfold RefundSnapshot.result
    cases htotal : refund.total toUpperCase with
    | none => rfl
    | some total =>
        rw [Option.bind_some, if_neg fun hand => hforeign total htotal hand.1]
  constructor
  · rw [List.filterMap_append, List.filterMap_cons, hresult, List.filterMap_nil, List.append_nil]
    exact h.results
  · exact ⟨fun _ => ⟨refund, by simp, hforeign⟩, fun _ => rfl⟩
  · rw [exists_mem_concat, h.aggregateMismatch]
    refine ⟨Or.inl, fun hor => hor.elim id ?_⟩
    rintro ⟨total, htotal, hcurrency, -⟩
    exact absurd hcurrency (hforeign total htotal)
  · exact h.key
  · intro e he
    exact exists_mem_concat.mpr (Or.inl (h.subset e he))
  · intro r hr hown
    rcases List.mem_append.mp hr with hr | hr
    · exact h.covers r hr hown
    · rw [List.mem_singleton.mp hr] at hown
      exact absurd hforeign hown

/-- A refund whose total is in the currency of the order. -/
lemma Summed.step_own (h : Summed toUpperCase orderTotal unique refunds st)
    (hunique : KeyUnique Prod.fst unique) {total : ParsedMoney}
    (htotal : refund.total toUpperCase = some total)
    (hcurrency : total.currency = orderTotal.currency) :
    Summed toUpperCase orderTotal unique (refunds ++ [refund])
      { st with
        perRefundResults := st.perRefundResults ++
          (refund.result toUpperCase orderTotal unique).toList
        globalSuccessfulRefunds := (positiveEntries unique refund.transactions).foldl setEntry
          st.globalSuccessfulRefunds
        successfulVoidTransactionCount := st.successfulVoidTransactionCount +
          (localTransactions unique refund.transactions).countP fun p => decide p.2.IsZeroVoid
        aggregateMismatch := st.aggregateMismatch ||
          decide (refund.localAmount unique ≠ total.decimal) } := by
  have hown : ¬ refund.ForeignTotal toUpperCase orderTotal := fun hforeign =>
    hforeign total htotal hcurrency
  let S : Set (String × ℚ) := {e | ∃ p ∈ unique, entryOf p = e}
  have hS : ∀ a ∈ S, ∀ b ∈ S, a.1 = b.1 → a = b := by
    rintro _ ⟨p, hp, rfl⟩ _ ⟨q, hq, rfl⟩ hkey
    rw [hunique.eq hp hq hkey]
  have hpositive : ∀ r : RefundSnapshot, ∀ e ∈ positiveEntries unique r.transactions, e ∈ S := by
    intro r e he
    obtain ⟨p, hp, -, hpe, -⟩ := (mem_positiveEntries hunique).mp he
    exact ⟨p, hp, hpe⟩
  obtain ⟨hkey, hmem⟩ := foldl_setEntry hS (hpositive refund) h.key fun e he => by
    obtain ⟨r, -, her⟩ := h.subset e he
    exact hpositive r e her
  constructor
  · rw [List.filterMap_append, h.results]
    cases hresult : refund.result toUpperCase orderTotal unique <;> simp [hresult]
  · rw [exists_mem_concat, h.currencyMismatch]
    exact ⟨Or.inl, fun hor => hor.elim id fun hforeign => absurd hforeign hown⟩
  · rw [exists_mem_concat, Bool.or_eq_true, decide_eq_true_eq, h.aggregateMismatch]
    refine or_congr_right ⟨fun hne => ⟨total, htotal, hcurrency, hne⟩, ?_⟩
    rintro ⟨total', htotal', -, hne⟩
    rwa [← Option.some.inj (htotal.symm.trans htotal')] at hne
  · exact hkey
  · intro e he
    rw [exists_mem_concat]
    exact ((hmem e).mp he).imp (h.subset e) id
  · intro r hr hr' e he
    refine (hmem e).mpr ?_
    rcases List.mem_append.mp hr with hr | hr
    · exact Or.inl (h.covers r hr hr' e he)
    · exact Or.inr (List.mem_singleton.mp hr ▸ he)

/-- One refund. -/
lemma Summed.step (h : Summed toUpperCase orderTotal unique refunds st)
    (hunique : KeyUnique Prod.fst unique) (refund : RefundSnapshot) :
    Summed toUpperCase orderTotal unique (refunds ++ [refund])
      (sumRefund toUpperCase orderTotal unique st refund) := by
  cases htotal : refund.total toUpperCase with
  | none =>
      have hforeign : refund.ForeignTotal toUpperCase orderTotal := fun total hsome => by
        rw [htotal] at hsome
        cases hsome
      simp only [sumRefund, htotal]
      exact h.step_foreign hforeign
  | some total =>
      by_cases hcurrency : total.currency = orderTotal.currency
      · have hstep := h.step_own hunique htotal hcurrency
        have hamount : sumDecimals (((localTransactions unique refund.transactions).filter
            fun p => decide p.2.IsSuccessfulRefund).map fun p => p.2.money.decimal) =
            refund.localAmount unique := by
          unfold RefundSnapshot.localAmount positiveEntries
          rw [List.map_map]
          rfl
        have hentries : ((localTransactions unique refund.transactions).filter
            fun p => decide p.2.IsSuccessfulRefund).map entryOf =
            positiveEntries unique refund.transactions := rfl
        simp only [sumRefund, htotal, hcurrency, ne_eq, not_true_eq_false, if_false, hamount,
          hentries]
        by_cases hequal : refund.localAmount unique = total.decimal
        · simpa [RefundSnapshot.result, htotal, hcurrency, hequal] using hstep
        · simpa [RefundSnapshot.result, htotal, hcurrency, hequal] using hstep
      · have hforeign : refund.ForeignTotal toUpperCase orderTotal := fun total' hsome => by
          rw [← Option.some.inj (htotal.symm.trans hsome)]
          exact hcurrency
        simp only [sumRefund, htotal, ne_eq, hcurrency, not_false_eq_true, if_true]
        exact h.step_foreign hforeign

end SumStep

/-- What the second loop knows in the end. -/
lemma summed_sumRefunds (orderTotal : ParsedMoney) {unique : List (String × UniqueTransaction)}
    (hunique : KeyUnique Prod.fst unique) (refunds : List RefundSnapshot) :
    Summed toUpperCase orderTotal unique refunds
      (sumRefunds toUpperCase orderTotal unique refunds) := by
  unfold sumRefunds
  induction refunds using List.reverseRecOn with
  | nil => exact Summed.empty orderTotal unique
  | append_singleton refunds refund ih =>
      rw [List.foldl_append, List.foldl_cons, List.foldl_nil]
      exact ih.step hunique refund

/-! ## The specification -/

/-- The answer of a classification, without its counts and texts. -/
structure Verdict where
  classification : RefundMonetaryClassification
  reasonCode : RefundMonetaryEvidenceReasonCode
  monetaryRefundAmount : ℚ
  currency : Option String
  orderAggregateAmount : Option ℚ

def RefundMonetaryEvidence.verdict (e : RefundMonetaryEvidence) : Verdict :=
  ⟨e.classification, e.reasonCode, e.monetaryRefundAmount, e.currency,
    e.common.orderAggregateAmount⟩

/-- An answer that verifies no money. -/
def Verdict.refuse (classification : RefundMonetaryClassification)
    (reasonCode : RefundMonetaryEvidenceReasonCode) (orderAggregateAmount : Option ℚ) : Verdict :=
  ⟨classification, reasonCode, 0, none, orderAggregateAmount⟩

/-- The answer for one refund, without its transactions. -/
structure ItemVerdict where
  sourceShopifyRefundId : String
  classification : RefundMonetaryClassification
  monetaryRefundAmount : ℚ
  currency : Option String
  reasonCode : RefundMonetaryEvidenceReasonCode

def RefundItemMonetaryEvidence.verdict (e : RefundItemMonetaryEvidence) : ItemVerdict :=
  ⟨e.sourceShopifyRefundId, e.classification, e.monetaryRefundAmount, e.currency, e.reasonCode⟩

variable (toUpperCase)

namespace RefundSnapshot

variable (refund : RefundSnapshot)

def HasZeroVoid : Prop := ∃ p ∈ entries toUpperCase refund.transactions, p.2.IsZeroVoid

/-- Neither money nor the void of nothing supports the refund. -/
def Unsupported : Prop :=
  ¬ 0 < refunded toUpperCase refund.transactions ∧ ¬ refund.HasZeroVoid toUpperCase

/-- The total of the refund is what its transactions add up to. -/
def Accounted (orderTotal : ParsedMoney) : Prop :=
  ∃ total, refund.total toUpperCase = some total ∧ total.currency = orderTotal.currency ∧
    refunded toUpperCase refund.transactions = total.decimal

open Classical in
noncomputable def itemVerdict (orderTotal : ParsedMoney) : ItemVerdict :=
  if 0 < refunded toUpperCase refund.transactions then
    ⟨refund.sourceShopifyRefundId, .monetaryRefund, refunded toUpperCase refund.transactions,
      some orderTotal.currency, .monetaryRefundVerified⟩
  else if refund.HasZeroVoid toUpperCase then
    ⟨refund.sourceShopifyRefundId, .zeroValueVoid, 0, some orderTotal.currency,
      .zeroValueVoidNotMonetaryRefund⟩
  else
    ⟨refund.sourceShopifyRefundId, .unsupportedOrAmbiguous, 0, some orderTotal.currency,
      .monetaryRefundTransactionMissing⟩

end RefundSnapshot

namespace RefundCollection

variable (c : RefundCollection)

/-- The totals of the refunds that have one. -/
def refundTotals : List ℚ :=
  c.refunds.filterMap fun r => (r.total toUpperCase).map (·.decimal)

/-- The sums over the collection have no more digits than the decimal library keeps. -/
def Fits : Prop :=
  ExactlySummable PRECISION ((supports toUpperCase c.allTransactions).map Prod.snd) ∧
    ExactlySummable PRECISION (c.refundTotals toUpperCase)

/-- The totals and the transactions do not add up to each other. -/
def Mismatch (orderTotal : ParsedMoney) : Prop :=
  (∃ r ∈ c.refunds, ¬ r.Accounted toUpperCase orderTotal) ∨
    (c.refundTotals toUpperCase).sum ≠ orderTotal.decimal ∨
    refunded toUpperCase c.allTransactions ≠ orderTotal.decimal

/-- The transactions allow to look at the sums. -/
structure Orderly (orderTotal : ParsedMoney) : Prop where
  consistent : ¬ c.Conflicting toUpperCase
  well : ¬ c.Malformed toUpperCase
  voids : ¬ c.HasTransaction toUpperCase UniqueTransaction.IsPositiveVoid
  currency : ¬ c.HasTransaction toUpperCase fun u => u.money.currency ≠ orderTotal.currency
  final : ¬ c.HasTransaction toUpperCase UniqueTransaction.IsNonFinalRefund
  some : c.allTransactions ≠ []

open Classical in
/-- The decision on the sums. -/
noncomputable def accountRefunds (orderTotal : ParsedMoney) : Verdict :=
  if ∃ r ∈ c.refunds, r.ForeignTotal toUpperCase orderTotal then
    .refuse .unsupportedOrAmbiguous .canonicalRefundCurrencyMismatch (some orderTotal.decimal)
  else if c.Mismatch toUpperCase orderTotal then
    .refuse .unsupportedOrAmbiguous .canonicalRefundAmountMismatch (some orderTotal.decimal)
  else if ∃ r ∈ c.refunds, r.Unsupported toUpperCase then
    .refuse .unsupportedOrAmbiguous .monetaryRefundTransactionMissing (some orderTotal.decimal)
  else
    ⟨if 0 < orderTotal.decimal then .monetaryRefund else .zeroValueVoid,
      if 0 < orderTotal.decimal then .monetaryRefundVerified else .zeroValueVoidNotMonetaryRefund,
      orderTotal.decimal, some orderTotal.currency, some orderTotal.decimal⟩

open Classical in
/-- The decision on the transactions. -/
noncomputable def accountTransactions (orderTotal : ParsedMoney) : Verdict :=
  if c.Conflicting toUpperCase then
    .refuse .unsupportedOrAmbiguous .duplicateRefundTransactionConflict (some orderTotal.decimal)
  else if c.Malformed toUpperCase ∨ c.HasTransaction toUpperCase UniqueTransaction.IsPositiveVoid
    then .refuse .unsupportedOrAmbiguous .refundTransactionAmbiguous (some orderTotal.decimal)
  else if c.HasTransaction toUpperCase fun u => u.money.currency ≠ orderTotal.currency then
    .refuse .unsupportedOrAmbiguous .canonicalRefundCurrencyMismatch (some orderTotal.decimal)
  else if c.HasTransaction toUpperCase UniqueTransaction.IsNonFinalRefund then
    .refuse .nonFinalRefund .nonFinalRefundTransaction (some orderTotal.decimal)
  else if c.allTransactions = [] then
    .refuse .unsupportedOrAmbiguous .monetaryRefundTransactionMissing (some orderTotal.decimal)
  else c.accountRefunds toUpperCase orderTotal

open Classical in
/-- What the evidence of a collection is. -/
noncomputable def account : Verdict :=
  if c.refundsListComplete = false then
    .refuse .unsupportedOrAmbiguous .canonicalRefundsListIncomplete none
  else if ∃ r ∈ c.refunds, r.transactionPaginationComplete = false then
    .refuse .unsupportedOrAmbiguous .canonicalRefundTransactionsIncomplete none
  else if ∃ r ∈ c.refunds, r.lineItemPaginationComplete = false then
    .refuse .unsupportedOrAmbiguous .canonicalRefundLineItemsIncomplete none
  else match c.orderTotal toUpperCase with
    | none => .refuse .unsupportedOrAmbiguous .refundTransactionAmbiguous none
    | some orderTotal => c.accountTransactions toUpperCase orderTotal

end RefundCollection

variable {toUpperCase}

/-! ## The code computes the specification -/

section Refines

variable {c : RefundCollection} {orderTotal : ParsedMoney}

lemma subset_allTransactions {r : RefundSnapshot} (hr : r ∈ c.refunds) :
    r.transactions ⊆ c.allTransactions := fun _ ht => List.mem_flatMap.mpr ⟨r, hr, ht⟩

lemma supports_subset {l m : List RefundTransaction} (h : l ⊆ m) :
    supports toUpperCase l ⊆ supports toUpperCase m := by
  intro e he
  obtain ⟨p, hp, hrefund, hpe⟩ := mem_supports.mp he
  obtain ⟨t, ht, hnorm⟩ := mem_entries.mp hp
  exact mem_supports.mpr ⟨p, mem_entries.mpr ⟨t, h ht, hnorm⟩, hrefund, hpe⟩

lemma supports_map_subperm {l m : List RefundTransaction} (h : l ⊆ m) :
    ((supports toUpperCase l).map Prod.snd).Subperm ((supports toUpperCase m).map Prod.snd) := by
  obtain ⟨k, hperm, hsub⟩ := List.subperm_of_subset (nodup_supports l) (supports_subset h)
  exact ⟨k.map Prod.snd, hperm.map _, hsub.map _⟩

variable (hfits : c.Fits toUpperCase) (hconsistent : c.Consistent toUpperCase)
  (hwell : ¬ c.Malformed toUpperCase) {st : CollectedTransactions}
  (h : Collected toUpperCase orderTotal c.allTransactions st)

include hfits hconsistent hwell h

/-- The sum of a refund is exact. -/
lemma localAmount_eq {r : RefundSnapshot} (hr : r ∈ c.refunds) :
    r.localAmount st.uniqueTransactions = refunded toUpperCase r.transactions := by
  have hsub := subset_allTransactions hr
  have hperm := (positiveEntries_perm h hconsistent hwell hsub).map Prod.snd
  have hexact : ExactlySummable PRECISION
      ((positiveEntries st.uniqueTransactions r.transactions).map Prod.snd) :=
    hfits.1.subperm (hperm.subperm.trans (supports_map_subperm hsub))
  exact hexact.roundedSum_eq.trans hperm.sum_eq

/-- The sum over the order is exact. -/
lemma globalAmount_eq {summed : SummedRefunds}
    (hsummed : Summed toUpperCase orderTotal st.uniqueTransactions c.refunds summed)
    (hown : ¬ ∃ r ∈ c.refunds, r.ForeignTotal toUpperCase orderTotal) :
    sumDecimals (summed.globalSuccessfulRefunds.map Prod.snd) =
      refunded toUpperCase c.allTransactions := by
  have hperm : summed.globalSuccessfulRefunds.Perm (supports toUpperCase c.allTransactions) := by
    rw [List.perm_ext_iff_of_nodup (hsummed.key.of_map Prod.fst) (nodup_supports _)]
    intro e
    constructor
    · intro he
      obtain ⟨r, hr, her⟩ := hsummed.subset e he
      have hsub := subset_allTransactions hr
      exact supports_subset hsub
        ((positiveEntries_perm h hconsistent hwell hsub).mem_iff.mp her)
    · intro he
      obtain ⟨p, hp, hrefund, hpe⟩ := mem_supports.mp he
      obtain ⟨t, ht, hnorm⟩ := mem_entries.mp hp
      obtain ⟨r, hr, htr⟩ := List.mem_flatMap.mp ht
      have her : e ∈ supports toUpperCase r.transactions :=
        mem_supports.mpr ⟨p, mem_entries.mpr ⟨t, htr, hnorm⟩, hrefund, hpe⟩
      refine hsummed.covers r hr (fun hforeign => hown ⟨r, hr, hforeign⟩) e ?_
      exact (positiveEntries_perm h hconsistent hwell (subset_allTransactions hr)).mem_iff.mpr her
  have hexact : ExactlySummable PRECISION (summed.globalSuccessfulRefunds.map Prod.snd) :=
    hfits.1.subperm (hperm.map Prod.snd).subperm
  exact hexact.roundedSum_eq.trans (hperm.map Prod.snd).sum_eq

/-- A refund has a result when it is accounted for. -/
lemma result_eq {r : RefundSnapshot} (hr : r ∈ c.refunds) :
    (∀ item, r.result toUpperCase orderTotal st.uniqueTransactions = some item →
      r.Accounted toUpperCase orderTotal ∧
        item.verdict = r.itemVerdict toUpperCase orderTotal) ∧
    (r.Accounted toUpperCase orderTotal →
      (r.result toUpperCase orderTotal st.uniqueTransactions).isSome) := by
  have hamount := localAmount_eq hfits hconsistent hwell h hr
  have hvoid := countP_isZeroVoid_pos_iff h hconsistent hwell (subset_allTransactions hr)
  constructor
  · intro item hitem
    unfold RefundSnapshot.result at hitem
    obtain ⟨total, htotal, hitem⟩ := Option.bind_eq_some_iff.mp hitem
    split at hitem
    · rename_i hok
      obtain rfl := Option.some.inj hitem
      refine ⟨⟨total, htotal, hok.1, hamount ▸ hok.2⟩, ?_⟩
      rw [hok.1, hamount]
      unfold itemResult RefundSnapshot.itemVerdict
      by_cases hpos : 0 < refunded toUpperCase r.transactions
      · simp only [hpos, if_true]
        rfl
      · by_cases hzero : r.HasZeroVoid toUpperCase
        · simp only [hpos, hvoid.mpr hzero, hzero, if_true, if_false]
          rfl
        · simp only [hpos, mt hvoid.mp hzero, hzero, if_false]
          rfl
    · cases hitem
  · rintro ⟨total, htotal, hcurrency, hequal⟩
    unfold RefundSnapshot.result
    rw [htotal, Option.bind_some, if_pos ⟨hcurrency, hamount.trans hequal⟩]
    rfl

omit hfits hconsistent hwell h in
/-- Totals that are all there are summed up. -/
lemma refundAggregate_eq {refunds : List RefundSnapshot}
    (htotals : ∀ r ∈ refunds, (r.total toUpperCase).isSome) :
    refundAggregate toUpperCase refunds = some (roundedSum PRECISION
      (refunds.filterMap fun r => (r.total toUpperCase).map (·.decimal))) := by
  have hfold : ∀ (refunds : List RefundSnapshot) (a : ℚ),
      (∀ r ∈ refunds, (r.total toUpperCase).isSome) →
      refunds.foldl (fun sum refund =>
          (refund.total toUpperCase).map fun total => plus (sum.getD 0) total.decimal) (some a) =
        some ((refunds.filterMap fun r => (r.total toUpperCase).map (·.decimal)).foldl
          (fun x y => roundSignificant PRECISION (x + y)) a) := by
    intro refunds
    induction refunds with
    | nil => intro a _; rfl
    | cons r refunds ih =>
        intro a htotals
        obtain ⟨total, htotal⟩ := Option.isSome_iff_exists.mp (htotals r List.mem_cons_self)
        have hrest := ih (plus a total.decimal) fun r hr => htotals r (List.mem_cons_of_mem _ hr)
        simp only [List.foldl_cons, List.filterMap_cons, htotal, Option.map_some, Option.getD_some]
        exact hrest
  exact hfold refunds 0 htotals

/-- The sums are compared as they are. -/
lemma mismatch_iff {summed : SummedRefunds}
    (hsummed : Summed toUpperCase orderTotal st.uniqueTransactions c.refunds summed)
    (hown : ¬ ∃ r ∈ c.refunds, r.ForeignTotal toUpperCase orderTotal) :
    (summed.aggregateMismatch = true ∨
      refundAggregate toUpperCase c.refunds ≠ some orderTotal.decimal ∨
      sumDecimals (summed.globalSuccessfulRefunds.map Prod.snd) ≠ orderTotal.decimal) ↔
        c.Mismatch toUpperCase orderTotal := by
  have htotals : ∀ r ∈ c.refunds, ∃ total, r.total toUpperCase = some total ∧
      total.currency = orderTotal.currency := by
    intro r hr
    by_contra hnone
    exact hown ⟨r, hr, fun total htotal hcurrency => hnone ⟨total, htotal, hcurrency⟩⟩
  have haggregate : refundAggregate toUpperCase c.refunds =
      some (c.refundTotals toUpperCase).sum := by
    have hsome : ∀ r ∈ c.refunds, (r.total toUpperCase).isSome := fun r hr => by
      obtain ⟨total, htotal, -⟩ := htotals r hr
      rw [htotal]
      rfl
    exact (refundAggregate_eq hsome).trans (congrArg some hfits.2.roundedSum_eq)
  have hlocal : summed.aggregateMismatch = true ↔
      ∃ r ∈ c.refunds, ¬ r.Accounted toUpperCase orderTotal := by
    rw [hsummed.aggregateMismatch]
    constructor
    · rintro ⟨r, hr, total, htotal, hcurrency, hne⟩
      refine ⟨r, hr, ?_⟩
      rintro ⟨total', htotal', -, hequal⟩
      obtain rfl := Option.some.inj (htotal.symm.trans htotal')
      exact hne ((localAmount_eq hfits hconsistent hwell h hr).trans hequal)
    · rintro ⟨r, hr, hnot⟩
      obtain ⟨total, htotal, hcurrency⟩ := htotals r hr
      refine ⟨r, hr, total, htotal, hcurrency, fun hequal => hnot ⟨total, htotal, hcurrency, ?_⟩⟩
      exact (localAmount_eq hfits hconsistent hwell h hr).symm.trans hequal
  rw [hlocal, haggregate, globalAmount_eq hfits hconsistent hwell h hsummed hown, ne_eq,
    Option.some.injEq]
  rfl

/-- A result without support is that of a refund without support. -/
lemma find_unsupported {summed : SummedRefunds}
    (hsummed : Summed toUpperCase orderTotal st.uniqueTransactions c.refunds summed)
    (haccounted : ∀ r ∈ c.refunds, r.Accounted toUpperCase orderTotal) :
    match summed.perRefundResults.find? fun r =>
        decide (r.classification = .unsupportedOrAmbiguous) with
    | some item => item.reasonCode = .monetaryRefundTransactionMissing ∧
        ∃ r ∈ c.refunds, r.Unsupported toUpperCase
    | none => ¬ ∃ r ∈ c.refunds, r.Unsupported toUpperCase := by
  have hverdict : ∀ r ∈ c.refunds, ∀ item,
      r.result toUpperCase orderTotal st.uniqueTransactions = some item →
        (item.classification = .unsupportedOrAmbiguous ↔ r.Unsupported toUpperCase) ∧
          (item.classification = .unsupportedOrAmbiguous →
            item.reasonCode = .monetaryRefundTransactionMissing) := by
    intro r hr item hitem
    obtain ⟨-, heq⟩ := (result_eq hfits hconsistent hwell h hr).1 item hitem
    have hclass : item.classification = (r.itemVerdict toUpperCase orderTotal).classification :=
      congrArg ItemVerdict.classification heq
    have hreason : item.reasonCode = (r.itemVerdict toUpperCase orderTotal).reasonCode :=
      congrArg ItemVerdict.reasonCode heq
    rw [hclass, hreason]
    unfold RefundSnapshot.itemVerdict RefundSnapshot.Unsupported
    by_cases hpos : 0 < refunded toUpperCase r.transactions
    · simp [hpos]
    · by_cases hzero : r.HasZeroVoid toUpperCase <;> simp [hpos, hzero]
  split
  · rename_i item hfind
    have hclass := List.find?_some hfind
    have hmem := List.mem_of_find?_eq_some hfind
    rw [hsummed.results] at hmem
    obtain ⟨r, hr, hitem⟩ := List.mem_filterMap.mp hmem
    obtain ⟨hiff, hreason⟩ := hverdict r hr item hitem
    exact ⟨hreason (of_decide_eq_true hclass), r, hr, hiff.mp (of_decide_eq_true hclass)⟩
  · rename_i hfind
    rintro ⟨r, hr, hunsupported⟩
    obtain ⟨item, hitem⟩ := Option.isSome_iff_exists.mp
      ((result_eq hfits hconsistent hwell h hr).2 (haccounted r hr))
    have hmem : item ∈ summed.perRefundResults := by
      rw [hsummed.results]
      exact List.mem_filterMap.mpr ⟨r, hr, hitem⟩
    have hnot := List.find?_eq_none.mp hfind item hmem
    exact hnot (decide_eq_true ((hverdict r hr item hitem).1.mpr hunsupported))

/-- The decision on the sums is the specified one. -/
lemma classifyRefunds_verdict (common : EvidenceCommon)
    (hcommon : common.orderAggregateAmount = some orderTotal.decimal) :
    (classifyRefunds toUpperCase c common orderTotal st.uniqueTransactions).verdict =
      c.accountRefunds toUpperCase orderTotal := by
  have hsummed := @summed_sumRefunds toUpperCase orderTotal _ h.key c.refunds
  generalize hsum : sumRefunds toUpperCase orderTotal st.uniqueTransactions c.refunds = summed
    at hsummed
  unfold classifyRefunds RefundCollection.accountRefunds
  rw [hsum]
  by_cases hforeign : ∃ r ∈ c.refunds, r.ForeignTotal toUpperCase orderTotal
  · rw [if_pos hforeign]
    simp only [hsummed.currencyMismatch.mpr hforeign, if_true]
    unfold RefundMonetaryEvidence.verdict safeResult Verdict.refuse
    simp only [hcommon]
  · rw [if_neg hforeign]
    simp only [mt hsummed.currencyMismatch.mp hforeign, Bool.false_eq_true, if_false]
    have hmismatch := mismatch_iff hfits hconsistent hwell h hsummed hforeign
    by_cases hbad : c.Mismatch toUpperCase orderTotal
    · rw [if_pos hbad, if_pos (hmismatch.mpr hbad)]
      unfold RefundMonetaryEvidence.verdict safeResult Verdict.refuse
      simp only [hcommon]
    · rw [if_neg hbad, if_neg (mt hmismatch.mp hbad)]
      have haccounted : ∀ r ∈ c.refunds, r.Accounted toUpperCase orderTotal := by
        intro r hr
        by_contra hnot
        exact hbad (Or.inl ⟨r, hr, hnot⟩)
      have hamount : sumDecimals (summed.globalSuccessfulRefunds.map Prod.snd) =
          orderTotal.decimal := by
        by_contra hne
        exact hbad (hmismatch.mp (Or.inr (Or.inr hne)))
      have hfind := find_unsupported hfits hconsistent hwell h hsummed haccounted
      cases hitem : summed.perRefundResults.find? fun r =>
          decide (r.classification = .unsupportedOrAmbiguous) with
      | some item =>
          simp only [hitem] at hfind
          rw [if_pos hfind.2]
          unfold RefundMonetaryEvidence.verdict safeResult Verdict.refuse
          simp only [hcommon, hfind.1]
      | none =>
          simp only [hitem] at hfind
          rw [if_neg hfind]
          simp only [hamount]
          unfold RefundMonetaryEvidence.verdict safeResult
          simp only [hcommon]

end Refines

section Verdict

variable {c : RefundCollection} {orderTotal : ParsedMoney} (hbars : c.Unambiguous toUpperCase)
  (hfits : c.Fits toUpperCase)

/-- Without transactions there is nothing to collect. -/
lemma uniqueTransactions_eq_nil_iff {st : CollectedTransactions}
    (h : Collected toUpperCase orderTotal c.allTransactions st)
    (hwell : ¬ c.Malformed toUpperCase) :
    st.uniqueTransactions = [] ↔ c.allTransactions = [] := by
  constructor
  · intro hnil
    by_contra hne
    obtain ⟨t, ts, hcons⟩ := List.exists_cons_of_ne_nil hne
    have ht : t ∈ c.allTransactions := hcons ▸ List.mem_cons_self
    cases hnorm : normalizeTransaction toUpperCase t with
    | none => exact hwell ⟨t, ht, hnorm⟩
    | some p =>
        obtain ⟨q, hq, -⟩ := h.covers p (mem_entries.mpr ⟨t, ht, hnorm⟩)
        rw [hnil] at hq
        cases hq
  · intro hnil
    rw [List.eq_nil_iff_forall_not_mem]
    intro p hp
    have hentry := h.subset p hp
    rw [hnil] at hentry
    cases hentry

include hbars hfits

/-- The decision on the transactions is the specified one. -/
lemma classifyTransactions_verdict (common : EvidenceCommon)
    (hcommon : common.orderAggregateAmount = some orderTotal.decimal) :
    (classifyTransactions toUpperCase c common orderTotal).verdict =
      c.accountTransactions toUpperCase orderTotal := by
  classical
  have h := @collected_collectTransactions toUpperCase orderTotal c
  unfold classifyTransactions RefundCollection.accountTransactions
  generalize collectTransactions toUpperCase orderTotal c.refunds = st at h
  by_cases hconflict : c.Conflicting toUpperCase
  · rw [if_pos hconflict]
    simp only [h.conflict_iff.mpr hconflict, if_true]
    unfold RefundMonetaryEvidence.verdict safeResult Verdict.refuse
    simp only [hcommon]
  have hconsistent := RefundCollection.consistent hbars hconflict
  have hvoid := h.positiveVoid.trans
    (h.exists_iff hconsistent fun _ _ hsame hv => SameEvidence.isPositiveVoid hsame hv)
  have hcurrency := h.currencyMismatch.trans
    (h.exists_iff (P := fun u => u.money.currency ≠ orderTotal.currency) hconsistent
      fun _ _ hsame hv => hsame.currency ▸ hv)
  have hfinal := h.nonFinal.trans
    (h.exists_iff hconsistent fun _ _ hsame hv => SameEvidence.isNonFinalRefund hsame hv)
  have hmalformed : st.malformedTransaction = true ↔ c.Malformed toUpperCase := h.malformed
  rw [if_neg hconflict]
  simp only [mt h.conflict_iff.mp hconflict, Bool.false_eq_true, if_false, hmalformed, hvoid,
    hcurrency, hfinal]
  by_cases hbad : c.Malformed toUpperCase ∨ c.HasTransaction toUpperCase
      UniqueTransaction.IsPositiveVoid
  · rw [if_pos hbad, if_pos hbad]
    unfold RefundMonetaryEvidence.verdict safeResult Verdict.refuse
    simp only [hcommon]
  rw [if_neg hbad, if_neg hbad]
  have hwell : ¬ c.Malformed toUpperCase := fun hm => hbad (Or.inl hm)
  by_cases hforeign : c.HasTransaction toUpperCase fun u => u.money.currency ≠ orderTotal.currency
  · rw [if_pos hforeign, if_pos hforeign]
    unfold RefundMonetaryEvidence.verdict safeResult Verdict.refuse
    simp only [hcommon]
  rw [if_neg hforeign, if_neg hforeign]
  by_cases hopen : c.HasTransaction toUpperCase UniqueTransaction.IsNonFinalRefund
  · rw [if_pos hopen, if_pos hopen]
    unfold RefundMonetaryEvidence.verdict safeResult Verdict.refuse
    simp only [hcommon]
  rw [if_neg hopen, if_neg hopen]
  by_cases hnone : c.allTransactions = []
  · rw [if_pos hnone, if_pos ((uniqueTransactions_eq_nil_iff h hwell).mpr hnone)]
    unfold RefundMonetaryEvidence.verdict safeResult Verdict.refuse
    simp only [hcommon]
  · rw [if_neg hnone, if_neg (mt (uniqueTransactions_eq_nil_iff h hwell).mp hnone)]
    exact classifyRefunds_verdict hfits hconsistent hwell h _ hcommon

/-- **The code computes the account.** -/
theorem classify_eq_account :
    (classifyCanonicalRefundMonetaryEvidence toUpperCase c).verdict = c.account toUpperCase := by
  classical
  have hpages : ∀ f : RefundSnapshot → Bool,
      (c.refunds.all f = false) = ∃ r ∈ c.refunds, f r = false := by
    intro f
    simp
  unfold classifyCanonicalRefundMonetaryEvidence RefundCollection.account
  simp only [hpages]
  by_cases hlist : c.refundsListComplete = false
  · rw [if_pos hlist, if_pos hlist]
    rfl
  rw [if_neg hlist, if_neg hlist]
  by_cases htransactions : ∃ r ∈ c.refunds, r.transactionPaginationComplete = false
  · rw [if_pos htransactions, if_pos htransactions]
    rfl
  rw [if_neg htransactions, if_neg htransactions]
  by_cases hlines : ∃ r ∈ c.refunds, r.lineItemPaginationComplete = false
  · rw [if_pos hlines, if_pos hlines]
    rfl
  rw [if_neg hlines, if_neg hlines]
  cases htotal : c.orderTotal toUpperCase with
  | none => rfl
  | some orderTotal => exact classifyTransactions_verdict hbars hfits _ rfl

end Verdict

/-! ## What a verified refund is -/

variable (toUpperCase)

/-- The collection is complete and its transactions are in order, so the sums are looked at. -/
structure RefundCollection.Reached (c : RefundCollection) (orderTotal : ParsedMoney) : Prop where
  listComplete : c.refundsListComplete = true
  transactionsComplete : ∀ r ∈ c.refunds, r.transactionPaginationComplete = true
  linesComplete : ∀ r ∈ c.refunds, r.lineItemPaginationComplete = true
  total : c.orderTotal toUpperCase = some orderTotal
  orderly : c.Orderly toUpperCase orderTotal

variable {toUpperCase}

section Reached

variable {c : RefundCollection}

/-- Either the sums decide, or there is no result for any refund. -/
lemma classify_reached (hbars : c.Unambiguous toUpperCase) :
    (∃ orderTotal common st, c.Reached toUpperCase orderTotal ∧
      Collected toUpperCase orderTotal c.allTransactions st ∧
      common.orderAggregateAmount = some orderTotal.decimal ∧
      classifyCanonicalRefundMonetaryEvidence toUpperCase c =
        classifyRefunds toUpperCase c common orderTotal st.uniqueTransactions) ∨
    ((∀ orderTotal, ¬ c.Reached toUpperCase orderTotal) ∧
      (classifyCanonicalRefundMonetaryEvidence toUpperCase c).refunds = [] ∧
      (classifyCanonicalRefundMonetaryEvidence toUpperCase c).common.refundAggregateAmount =
        none) := by
  unfold classifyCanonicalRefundMonetaryEvidence
  by_cases hlist : c.refundsListComplete = false
  · rw [if_pos hlist]
    exact Or.inr ⟨fun _ h => absurd h.listComplete (by simp [hlist]), rfl, rfl⟩
  rw [if_neg hlist]
  simp only
  by_cases htransactions : c.refunds.all (·.transactionPaginationComplete) = false
  · rw [if_pos htransactions]
    refine Or.inr ⟨fun _ h => ?_, rfl, rfl⟩
    rw [List.all_eq_true.mpr h.transactionsComplete] at htransactions
    cases htransactions
  rw [if_neg htransactions]
  by_cases hlines : c.refunds.all (·.lineItemPaginationComplete) = false
  · rw [if_pos hlines]
    refine Or.inr ⟨fun _ h => ?_, rfl, rfl⟩
    rw [List.all_eq_true.mpr h.linesComplete] at hlines
    cases hlines
  rw [if_neg hlines]
  cases htotal : c.orderTotal toUpperCase with
  | none =>
      refine Or.inr ⟨fun _ h => ?_, rfl, rfl⟩
      rw [h.total] at htotal
      cases htotal
  | some orderTotal =>
      simp only
      have h := @collected_collectTransactions toUpperCase orderTotal c
      have hsome : ∀ total, c.Reached toUpperCase total → total = orderTotal := fun total hr =>
        Option.some.inj (hr.total.symm.trans htotal)
      unfold classifyTransactions
      generalize collectTransactions toUpperCase orderTotal c.refunds = st at h
      by_cases hconflict : st.duplicateConflict = true
      · simp only [hconflict, if_true]
        exact Or.inr ⟨fun _ hr => hr.orderly.consistent (h.conflict_iff.mp hconflict), rfl, rfl⟩
      have hconsistent := RefundCollection.consistent hbars (mt h.conflict_iff.mpr hconflict)
      have hvoid := h.positiveVoid.trans
        (h.exists_iff hconsistent fun _ _ hsame hv => SameEvidence.isPositiveVoid hsame hv)
      have hcurrency := h.currencyMismatch.trans
        (h.exists_iff (P := fun u => u.money.currency ≠ orderTotal.currency) hconsistent
          fun _ _ hsame hv => hsame.currency ▸ hv)
      have hfinal := h.nonFinal.trans
        (h.exists_iff hconsistent fun _ _ hsame hv => SameEvidence.isNonFinalRefund hsame hv)
      simp only [hconflict, Bool.false_eq_true, if_false]
      by_cases hbad : st.malformedTransaction = true ∨ st.positiveVoid = true
      · rw [if_pos hbad]
        refine Or.inr ⟨fun _ hr => hbad.elim ?_ ?_, rfl, rfl⟩
        · exact fun hm => hr.orderly.well (h.malformed.mp hm)
        · exact fun hv => hr.orderly.voids (hvoid.mp hv)
      rw [if_neg hbad]
      by_cases hforeign : st.currencyMismatch = true
      · simp only [hforeign, if_true]
        refine Or.inr ⟨fun total hr => ?_, rfl, rfl⟩
        obtain rfl := hsome total hr
        exact hr.orderly.currency (hcurrency.mp hforeign)
      simp only [hforeign, Bool.false_eq_true, if_false]
      by_cases hopen : 0 < st.nonFinalTransactionCount
      · rw [if_pos hopen]
        exact Or.inr ⟨fun _ hr => hr.orderly.final (hfinal.mp hopen), rfl, rfl⟩
      rw [if_neg hopen]
      have hwell : ¬ c.Malformed toUpperCase := fun hm => hbad (Or.inl (h.malformed.mpr hm))
      by_cases hnone : st.uniqueTransactions = []
      · rw [if_pos hnone]
        exact Or.inr ⟨fun _ hr => hr.orderly.some
          ((uniqueTransactions_eq_nil_iff h hwell).mp hnone), rfl, rfl⟩
      · rw [if_neg hnone]
        refine Or.inl ⟨orderTotal, _, st, ⟨by simpa using hlist, ?_, ?_, htotal, ?_⟩, h, rfl, rfl⟩
        · simpa using htransactions
        · simpa using hlines
        · exact ⟨mt h.conflict_iff.mpr hconflict, hwell, fun hv => hbad (Or.inr (hvoid.mpr hv)),
            mt hcurrency.mpr hforeign, mt hfinal.mpr hopen,
            mt (uniqueTransactions_eq_nil_iff h hwell).mpr hnone⟩

lemma classifyRefunds_refunds (common : EvidenceCommon) (orderTotal : ParsedMoney)
    (unique : List (String × UniqueTransaction)) :
    (classifyRefunds toUpperCase c common orderTotal unique).refunds =
      (sumRefunds toUpperCase orderTotal unique c.refunds).perRefundResults := by
  simp only [classifyRefunds]
  split
  · rfl
  split
  · rfl
  split
  · rfl
  · rfl

lemma classifyRefunds_refundAggregateAmount (common : EvidenceCommon) (orderTotal : ParsedMoney)
    (unique : List (String × UniqueTransaction)) :
    (classifyRefunds toUpperCase c common orderTotal unique).common.refundAggregateAmount =
      refundAggregate toUpperCase c.refunds := by
  simp only [classifyRefunds]
  split
  · rfl
  split
  · rfl
  split
  · rfl
  · rfl

end Reached

end VendorDashboard.Shopify

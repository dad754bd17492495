import VendorDashboard.Framework.Decimal
import VendorDashboard.Framework.Reordering
import VendorDashboard.Framework.Text
import Mathlib.Data.List.Lex
import Mathlib.Data.List.Sort

/-!
# Stable JSON texts

`stableJson` writes a JSON value with the fields of every object sorted by their names, and fails on
numbers that are not safe integers.  A text written so is read in one way only: no text of a value
is the beginning of another one that goes on differently (`stableChars_prefixFree`), so values with
one text differ by the order of fields at most (`stableJson_eq_iff`).

Names are compared as lists of UTF-16 code units, and `sortBy` is a stable sort by such a name.
-/

namespace VendorDashboard.StableJson

open Decimal Reordering Text

/-! ## Values -/

inductive Value
  | null
  | bool (b : Bool)
  | number (q : ℚ)
  | string (s : String)
  | array (items : List Value)
  | object (fields : List (String × Value))

/-- The induction over the items of arrays and the fields of objects. -/
@[elab_as_elim]
theorem Value.induction {P : Value → Prop} (null : P .null) (bool : ∀ b, P (.bool b))
    (number : ∀ q, P (.number q)) (string : ∀ s, P (.string s))
    (array : ∀ items, (∀ v ∈ items, P v) → P (.array items))
    (object : ∀ fields, (∀ f ∈ fields, P f.2) → P (.object fields)) (v : Value) : P v :=
  Value.rec (motive_1 := P) (motive_2 := fun items => ∀ v ∈ items, P v)
    (motive_3 := fun fields => ∀ f ∈ fields, P f.2) (motive_4 := fun f => P f.2)
    null bool number string array object (fun _ h => by cases h)
    (fun v items hv hitems w hw => (List.mem_cons.mp hw).elim (fun h => h ▸ hv) (hitems w))
    (fun _ h => by cases h)
    (fun f fields hf hfields g hg => (List.mem_cons.mp hg).elim (fun h => h ▸ hf) (hfields g))
    (fun _ _ h => h) v

/-- No object has two fields of one name. -/
inductive WellFormed : Value → Prop
  | null : WellFormed .null
  | bool (b : Bool) : WellFormed (.bool b)
  | number (q : ℚ) : WellFormed (.number q)
  | string (s : String) : WellFormed (.string s)
  | array {items : List Value} (h : ∀ v ∈ items, WellFormed v) : WellFormed (.array items)
  | object {fields : List (String × Value)} (hkeys : (fields.map Prod.fst).Nodup)
      (h : ∀ f ∈ fields, WellFormed f.2) : WellFormed (.object fields)

/-- The fields of objects are reordered, at any depth. -/
inductive KeyReordering : Value → Value → Prop
  | refl (v : Value) : KeyReordering v v
  | trans {u v w : Value} : KeyReordering u v → KeyReordering v w → KeyReordering u w
  | perm {fields fields' : List (String × Value)} (h : fields.Perm fields') :
      KeyReordering (.object fields) (.object fields')
  | item {u v : Value} (l m : List Value) (h : KeyReordering u v) :
      KeyReordering (.array (l ++ u :: m)) (.array (l ++ v :: m))
  | field {u v : Value} (l m : List (String × Value)) (key : String) (h : KeyReordering u v) :
      KeyReordering (.object (l ++ (key, u) :: m)) (.object (l ++ (key, v) :: m))

/-! ## Sorting by a name -/

section Sorting

universe u

variable {α : Type u}

/-- A stable sort by a name, compared by UTF-16 code units. -/
def sortBy (key : α → String) (l : List α) : List α :=
  l.insertionSort fun a b => codeUnits (key a) ≤ codeUnits (key b)

lemma sortBy_perm (key : α → String) (l : List α) : (sortBy key l).Perm l :=
  List.perm_insertionSort _ l

/-- The code units of a character. -/
def unitsOf (c : Char) : List ℕ :=
  if c.toNat > 0xFFFF then
    [0xD800 + (c.toNat - 0x10000) / 0x400, 0xDC00 + (c.toNat - 0x10000) % 0x400]
  else [c.toNat]

/-- A character is read back from its code units. -/
lemma unitsOf_append_injective {c d : Char} {s t : List ℕ}
    (h : unitsOf c ++ s = unitsOf d ++ t) : c = d ∧ s = t := by
  have hvalid : ∀ e : Char, e.toNat < 0xD800 ∨ 0xDFFF < e.toNat ∧ e.toNat < 0x110000 :=
    fun e => e.valid
  have hc := hvalid c
  have hd := hvalid d
  have heq : c.toNat = d.toNat → c = d := fun hn => Char.ext (UInt32.toNat_inj.mp hn)
  unfold unitsOf at h
  split at h
  · split at h
    · simp only [List.cons_append, List.nil_append, List.cons.injEq] at h
      refine ⟨heq ?_, h.2.2⟩
      omega
    · simp only [List.cons_append, List.nil_append, List.cons.injEq] at h
      omega
  · split at h
    · simp only [List.cons_append, List.nil_append, List.cons.injEq] at h
      omega
    · simp only [List.cons_append, List.nil_append, List.cons.injEq] at h
      exact ⟨heq h.1, h.2⟩

lemma codeUnits_injective : Function.Injective codeUnits := by
  have hlists : ∀ l m : List Char, l.flatMap unitsOf = m.flatMap unitsOf → l = m := by
    have hne : ∀ (c : Char) (l : List Char), unitsOf c ++ l.flatMap unitsOf ≠ [] := by
      intro c l
      unfold unitsOf
      split <;> simp
    intro l
    induction l with
    | nil =>
        intro m h
        cases m with
        | nil => rfl
        | cons d m => exact absurd h.symm (hne d m)
    | cons c l ih =>
        intro m h
        cases m with
        | nil => exact absurd h (hne c l)
        | cons d m =>
            obtain ⟨rfl, hrest⟩ := unitsOf_append_injective h
            rw [ih m hrest]
  intro s t h
  exact String.toList_inj.mp (hlists _ _ h)

/-- Sorted lists of the same elements are the same when elements differ by their names. -/
theorem sortBy_eq_of_perm {key : α → String} {l m : List α} (h : l.Perm m)
    (hkey : ∀ a ∈ l, ∀ b ∈ l, key a = key b → a = b) : sortBy key l = sortBy key m := by
  refine insertionSort_eq_of_perm (fun a b => le_total (codeUnits (key a)) (codeUnits (key b)))
    (fun a b c hab hbc => le_trans hab hbc) h ?_
  intro a ha b hb hab hba
  exact hkey a ha b hb (codeUnits_injective (le_antisymm hab hba))

lemma sortBy_eq_iff {key : α → String} {l m : List α}
    (hkey : ∀ a ∈ l, ∀ b ∈ l, key a = key b → a = b) : sortBy key l = sortBy key m ↔ l.Perm m := by
  constructor
  · intro h
    exact (sortBy_perm key l).symm.trans (h ▸ sortBy_perm key m)
  · intro h
    exact sortBy_eq_of_perm h hkey

end Sorting

/-! ## Texts -/

/-- A hexadecimal digit in lower case. -/
def hexDigit (n : ℕ) : Char := if n < 10 then Char.ofNat (48 + n) else Char.ofNat (87 + n)

/-- What stands for a character between quotation marks. -/
def escapeChar (c : Char) : List Char :=
  if c = '"' then ['\\', '"']
  else if c = '\\' then ['\\', '\\']
  else if c.toNat = 8 then ['\\', 'b']
  else if c.toNat = 12 then ['\\', 'f']
  else if c.toNat = 10 then ['\\', 'n']
  else if c.toNat = 13 then ['\\', 'r']
  else if c.toNat = 9 then ['\\', 't']
  else if c.toNat < 32 then ['\\', 'u', '0', '0', hexDigit (c.toNat / 16), hexDigit (c.toNat % 16)]
  else [c]

def quote (s : String) : List Char := '"' :: s.toList.flatMap escapeChar ++ ['"']

/-- The decimal digits of a natural number. -/
def decimalDigits (n : ℕ) : List ℕ := if n = 0 then [0] else (Nat.digits 10 n).reverse

/-- `Number.isSafeInteger`. -/
def IsSafeInteger (q : ℚ) : Prop := q.den = 1 ∧ q.num.natAbs < 2 ^ 53

instance (q : ℚ) : Decidable (IsSafeInteger q) := inferInstanceAs (Decidable (_ ∧ _))

/-- The decimal text of an integer. -/
def integerText (n : ℤ) : List Char :=
  (if n < 0 then ['-'] else []) ++ (decimalDigits n.natAbs).map digitChar

/-- `join(',')`. -/
def commaSeparated : List (List Char) → List Char
  | [] => []
  | cell :: cells => cell ++ cells.flatMap fun c => ',' :: c

/-- A field of an object. -/
def fieldText (entry : String × List Char) : List Char := quote entry.1 ++ ':' :: entry.2

mutual

/-- The text of a value, unless it contains a number that is not a safe integer.  A field has the
same text before and after the sort. -/
def stableChars : Value → Option (List Char)
  | .null => some "null".toList
  | .bool true => some "true".toList
  | .bool false => some "false".toList
  | .number q => if IsSafeInteger q then some (integerText q.num) else none
  | .string s => some (quote s)
  | .array items => (itemTexts items).map fun cells => '[' :: commaSeparated cells ++ [']']
  | .object fields => (fieldTexts fields).map fun entries =>
      '{' :: commaSeparated ((sortBy Prod.fst entries).map fieldText) ++ ['}']

def itemTexts : List Value → Option (List (List Char))
  | [] => some []
  | v :: vs => (stableChars v).bind fun text => (itemTexts vs).map fun texts => text :: texts

def fieldTexts : List (String × Value) → Option (List (String × List Char))
  | [] => some []
  | (key, v) :: fields => (stableChars v).bind fun text =>
      (fieldTexts fields).map fun entries => (key, text) :: entries

end

/-- `stableJson`; `none` where it throws. -/
def stableJson (v : Value) : Option String := (stableChars v).map String.ofList

lemma itemTexts_eq_some {items : List Value} {cells : List (List Char)} :
    itemTexts items = some cells ↔
      List.Forall₂ (fun v cell => stableChars v = some cell) items cells := by
  induction items generalizing cells with
  | nil =>
      rw [itemTexts, List.forall₂_nil_left_iff]
      exact ⟨fun h => (Option.some.inj h).symm, fun h => congrArg some h.symm⟩
  | cons v vs ih =>
      rw [itemTexts, List.forall₂_cons_left_iff]
      simp only [Option.bind_eq_some_iff, Option.map_eq_some_iff, ih]
      constructor
      · rintro ⟨text, htext, texts, htexts, rfl⟩
        exact ⟨text, texts, htext, htexts, rfl⟩
      · rintro ⟨text, texts, htext, htexts, rfl⟩
        exact ⟨text, htext, texts, htexts, rfl⟩

lemma fieldTexts_eq_some {fields : List (String × Value)} {entries : List (String × List Char)} :
    fieldTexts fields = some entries ↔ List.Forall₂
      (fun f entry => entry.1 = f.1 ∧ stableChars f.2 = some entry.2) fields entries := by
  induction fields generalizing entries with
  | nil =>
      rw [fieldTexts, List.forall₂_nil_left_iff]
      exact ⟨fun h => (Option.some.inj h).symm, fun h => congrArg some h.symm⟩
  | cons f fields ih =>
      rw [fieldTexts, List.forall₂_cons_left_iff]
      simp only [Option.bind_eq_some_iff, Option.map_eq_some_iff, ih]
      constructor
      · rintro ⟨text, htext, entries, hentries, rfl⟩
        exact ⟨(f.1, text), entries, ⟨rfl, htext⟩, hentries, rfl⟩
      · rintro ⟨⟨key, text⟩, entries, ⟨rfl, htext⟩, hentries, rfl⟩
        exact ⟨text, htext, entries, hentries, rfl⟩

/-! ## Quoted texts are read in one way -/

def hexValue (c : Char) : ℕ := if c.toNat < 58 then c.toNat - 48 else c.toNat - 87

/-- Read one character of a quoted text. -/
def readChar : List Char → Option (Char × List Char)
  | [] => none
  | '\\' :: '"' :: r => some ('"', r)
  | '\\' :: '\\' :: r => some ('\\', r)
  | '\\' :: 'b' :: r => some (Char.ofNat 8, r)
  | '\\' :: 'f' :: r => some (Char.ofNat 12, r)
  | '\\' :: 'n' :: r => some (Char.ofNat 10, r)
  | '\\' :: 'r' :: r => some (Char.ofNat 13, r)
  | '\\' :: 't' :: r => some (Char.ofNat 9, r)
  | '\\' :: 'u' :: _ :: _ :: high :: low :: r =>
      some (Char.ofNat (hexValue high * 16 + hexValue low), r)
  | c :: r => some (c, r)

lemma hexValue_hexDigit {n : ℕ} (h : n < 16) : hexValue (hexDigit n) = n := by
  have hall : ∀ n < 16, hexValue (hexDigit n) = n := by decide
  exact hall n h

lemma ofNat_eq_of_toNat_eq {c : Char} {n : ℕ} (h : c.toNat = n) : Char.ofNat n = c := by
  rw [← h, Char.ofNat_toNat]

/-- A character is read back from what stands for it. -/
lemma readChar_escapeChar (c : Char) (r : List Char) :
    readChar (escapeChar c ++ r) = some (c, r) := by
  unfold escapeChar
  split_ifs with h1 h2 h3 h4 h5 h6 h7 h8
  · rw [h1]
    rfl
  · rw [h2]
    rfl
  · rw [← ofNat_eq_of_toNat_eq h3]
    rfl
  · rw [← ofNat_eq_of_toNat_eq h4]
    rfl
  · rw [← ofNat_eq_of_toNat_eq h5]
    rfl
  · rw [← ofNat_eq_of_toNat_eq h6]
    rfl
  · rw [← ofNat_eq_of_toNat_eq h7]
    rfl
  · have hhigh := hexValue_hexDigit (n := c.toNat / 16) (by omega)
    have hlow := hexValue_hexDigit (n := c.toNat % 16) (Nat.mod_lt _ (by omega))
    show some (Char.ofNat (hexValue (hexDigit (c.toNat / 16)) * 16 +
      hexValue (hexDigit (c.toNat % 16))), r) = some (c, r)
    rw [hhigh, hlow, Nat.div_add_mod', Char.ofNat_toNat]
  · rw [List.singleton_append]
    unfold readChar
    split <;> simp_all

lemma escapeChar_append_injective {c d : Char} {s t : List Char}
    (h : escapeChar c ++ s = escapeChar d ++ t) : c = d ∧ s = t := by
  have hread := readChar_escapeChar c s
  rw [h, readChar_escapeChar] at hread
  obtain ⟨rfl, rfl⟩ := Prod.mk.inj (Option.some.inj hread)
  exact ⟨rfl, rfl⟩

/-- A quotation mark ends a quoted text. -/
lemma escapeChar_ne_quote (c : Char) (r s : List Char) : escapeChar c ++ r ≠ '"' :: s := by
  unfold escapeChar
  split_ifs with h1
  all_goals
    intro h
    simp only [List.cons_append, List.nil_append, List.cons.injEq] at h
    have hhead := h.1
    first
    | exact absurd hhead (by decide)
    | exact h1 hhead

/-- A quoted text ends in one place. -/
lemma quote_append_injective {s t : String} {x y : List Char}
    (h : quote s ++ x = quote t ++ y) : s = t ∧ x = y := by
  have hlists : ∀ l m : List Char,
      l.flatMap escapeChar ++ '"' :: x = m.flatMap escapeChar ++ '"' :: y → l = m ∧ x = y := by
    intro l
    induction l with
    | nil =>
        intro m hm
        cases m with
        | nil => exact ⟨rfl, (List.cons.inj hm).2⟩
        | cons d m =>
            rw [List.flatMap_cons, List.append_assoc] at hm
            exact absurd hm.symm (escapeChar_ne_quote d _ _)
    | cons c l ih =>
        intro m hm
        cases m with
        | nil =>
            rw [List.flatMap_cons, List.append_assoc] at hm
            exact absurd hm (escapeChar_ne_quote c _ _)
        | cons d m =>
            simp only [List.flatMap_cons, List.append_assoc] at hm
            obtain ⟨rfl, hrest⟩ := escapeChar_append_injective hm
            obtain ⟨rfl, hxy⟩ := ih m hrest
            exact ⟨rfl, hxy⟩
  simp only [quote, List.cons_append, List.append_assoc, List.cons.injEq, true_and,
    List.nil_append] at h
  obtain ⟨hst, hxy⟩ := hlists _ _ h
  exact ⟨String.toList_inj.mp hst, hxy⟩

/-! ## Numbers are read in one way -/

/-- What can follow a value. -/
def Ends (s : List Char) : Prop := ∀ c ∈ s.head?, c = ',' ∨ c = ']' ∨ c = '}'

lemma Ends.not_digit {s : List Char} (h : Ends s) : ∀ c ∈ s.head?, isDigit c = false := by
  intro c hc
  rcases h c hc with rfl | rfl | rfl <;> rfl

lemma decimalDigits_lt (n : ℕ) : ∀ d ∈ decimalDigits n, d < 10 := by
  intro d hd
  unfold decimalDigits at hd
  split at hd
  · rw [List.mem_singleton.mp hd]
    omega
  · exact Nat.digits_lt_base (by omega) (List.mem_reverse.mp hd)

lemma decimalDigits_ne_nil (n : ℕ) : decimalDigits n ≠ [] := by
  unfold decimalDigits
  split
  · exact List.cons_ne_nil _ _
  · rename_i hn
    rw [ne_eq, List.reverse_eq_nil_iff, Nat.digits_eq_nil_iff_eq_zero]
    exact hn

lemma natOf_decimalDigits (n : ℕ) : natOf (decimalDigits n) = n := by
  unfold decimalDigits natOf
  split
  · rename_i hn
    rw [hn]
    rfl
  · rw [List.reverse_reverse, Nat.ofDigits_digits]

/-- The first digit of a number. -/
lemma integerText_cons (n : ℤ) : ∃ c r, integerText n = c :: r ∧ (c = '-' ↔ n < 0) ∧
    (c = '-' ∨ ∃ d, c = digitChar d) := by
  obtain ⟨d, ds, hds⟩ := List.exists_cons_of_ne_nil (decimalDigits_ne_nil n.natAbs)
  have hne : digitChar d ≠ '-' := by
    intro h
    have hdigit := isDigit_digitChar d
    rw [h] at hdigit
    exact absurd hdigit (by decide)
  unfold integerText
  rw [hds]
  split
  · rename_i hneg
    exact ⟨'-', _, rfl, ⟨fun _ => hneg, fun _ => rfl⟩, Or.inl rfl⟩
  · rename_i hpos
    exact ⟨digitChar d, _, rfl, ⟨fun h => absurd h hne, fun h => absurd h hpos⟩, Or.inr ⟨d, rfl⟩⟩

/-- A number ends where its digits end. -/
lemma integerText_append_injective {m n : ℤ} {s t : List Char} (hs : Ends s) (ht : Ends t)
    (h : integerText m ++ s = integerText n ++ t) : m = n ∧ s = t := by
  have hsign : m < 0 ↔ n < 0 := by
    obtain ⟨c, r, hm, hmneg, -⟩ := integerText_cons m
    obtain ⟨d, r', hn, hnneg, -⟩ := integerText_cons n
    rw [hm, hn, List.cons_append, List.cons_append] at h
    rw [← hmneg, ← hnneg, (List.cons.inj h).1]
  have hdigits : (decimalDigits m.natAbs).map digitChar ++ s =
      (decimalDigits n.natAbs).map digitChar ++ t := by
    unfold integerText at h
    by_cases hm : m < 0
    · rw [if_pos hm, if_pos (hsign.mp hm)] at h
      exact (List.cons.inj h).2
    · rw [if_neg hm, if_neg (mt hsign.mpr hm)] at h
      exact h
  obtain ⟨heq, hst⟩ := digits_append_injective (decimalDigits_lt _) (decimalDigits_lt _)
    hs.not_digit ht.not_digit hdigits
  have habs : m.natAbs = n.natAbs := by
    rw [← natOf_decimalDigits m.natAbs, heq, natOf_decimalDigits]
  refine ⟨?_, hst⟩
  rcases Int.natAbs_eq_natAbs_iff.mp habs with hmn | hmn
  · exact hmn
  · omega

/-! ## Lists are read in one way -/

/-- A text that is not empty and does not begin with what can follow a value. -/
def Begins (a : List Char) : Prop := a ≠ [] ∧ ¬ Ends a

/-- Two texts of which neither is a beginning of the other one that goes on differently. -/
def Separable (a b : List Char) : Prop :=
  ∀ s t, Ends s → Ends t → a ++ s = b ++ t → a = b ∧ s = t

lemma ends_cons {c : Char} {s : List Char} (h : c = ',' ∨ c = ']' ∨ c = '}') : Ends (c :: s) := by
  intro d hd
  obtain rfl := Option.some.inj hd
  exact h

lemma Begins.append_ne {a s t : List Char} {c : Char} (h : Begins a)
    (hc : c = ',' ∨ c = ']' ∨ c = '}') : a ++ s ≠ c :: t := by
  intro heq
  obtain ⟨d, r, rfl⟩ := List.exists_cons_of_ne_nil h.1
  rw [List.cons_append] at heq
  exact h.2 (ends_cons ((List.cons.inj heq).1 ▸ hc))

/-- Lists of texts end at their closing bracket. -/
lemma commaSeparated_append_injective {close : Char} (hclose : close = ']' ∨ close = '}')
    {l m : List (List Char)} (hsep : ∀ a ∈ l, ∀ b ∈ m, Separable a b) (hl : ∀ a ∈ l, Begins a)
    (hm : ∀ b ∈ m, Begins b) {s t : List Char}
    (h : commaSeparated l ++ close :: s = commaSeparated m ++ close :: t) : l = m ∧ s = t := by
  have hends : ∀ (k : List (List Char)) (u : List Char),
      Ends ((k.flatMap fun c => ',' :: c) ++ close :: u) := by
    intro k u
    cases k with
    | nil => exact ends_cons (Or.inr hclose)
    | cons a k => exact ends_cons (Or.inl rfl)
  have hne : close ≠ ',' := by
    rcases hclose with rfl | rfl <;> decide
  have htail : ∀ l m : List (List Char), (∀ a ∈ l, ∀ b ∈ m, Separable a b) →
      (l.flatMap fun c => ',' :: c) ++ close :: s = (m.flatMap fun c => ',' :: c) ++ close :: t →
        l = m ∧ s = t := by
    intro l
    induction l with
    | nil =>
        intro m _ heq
        cases m with
        | nil => exact ⟨rfl, (List.cons.inj heq).2⟩
        | cons b m => exact absurd (List.cons.inj heq).1 hne
    | cons a l ih =>
        intro m hsep heq
        cases m with
        | nil => exact absurd (List.cons.inj heq).1.symm hne
        | cons b m =>
            simp only [List.flatMap_cons, List.cons_append, List.append_assoc, List.cons.injEq,
              true_and] at heq
            obtain ⟨rfl, hrest⟩ := hsep a List.mem_cons_self b List.mem_cons_self _ _
              (hends l s) (hends m t) heq
            obtain ⟨rfl, hst⟩ := ih m (fun x hx y hy => hsep x (List.mem_cons_of_mem _ hx) y
              (List.mem_cons_of_mem _ hy)) hrest
            exact ⟨rfl, hst⟩
  cases l with
  | nil =>
      cases m with
      | nil => exact ⟨rfl, (List.cons.inj h).2⟩
      | cons b m =>
          simp only [commaSeparated, List.append_assoc] at h
          exact absurd h.symm ((hm b List.mem_cons_self).append_ne (Or.inr hclose))
  | cons a l =>
      cases m with
      | nil =>
          simp only [commaSeparated, List.append_assoc] at h
          exact absurd h ((hl a List.mem_cons_self).append_ne (Or.inr hclose))
      | cons b m =>
          simp only [commaSeparated, List.append_assoc] at h
          obtain ⟨rfl, hrest⟩ := hsep a List.mem_cons_self b List.mem_cons_self _ _
            (hends l s) (hends m t) h
          obtain ⟨rfl, hst⟩ := htail l m (fun x hx y hy => hsep x (List.mem_cons_of_mem _ hx) y
            (List.mem_cons_of_mem _ hy)) hrest
          exact ⟨rfl, hst⟩

/-! ## Values are read in one way -/

def Value.kind : Value → ℕ
  | .null => 0
  | .bool _ => 1
  | .number _ => 3
  | .string _ => 4
  | .array _ => 5
  | .object _ => 6

/-- The kind of the values whose text begins with a character. -/
def kindOf (c : Char) : ℕ :=
  if c = 'n' then 0 else if c = 'f' ∨ c = 't' then 1
  else if c = '-' ∨ isDigit c = true then 3
  else if c = '"' then 4 else if c = '[' then 5 else if c = '{' then 6 else 7

lemma kindOf_digitChar (d : ℕ) : kindOf (digitChar d) = 3 := by
  have hlt : d % 10 < 10 := Nat.mod_lt d (by omega)
  unfold digitChar
  interval_cases d % 10 <;> rfl

lemma stableChars_cons {v : Value} {a : List Char} (h : stableChars v = some a) :
    ∃ c r, a = c :: r ∧ kindOf c = v.kind := by
  cases v with
  | null =>
      obtain rfl := Option.some.inj h
      exact ⟨'n', _, rfl, rfl⟩
  | bool b =>
      cases b with
      | true =>
          obtain rfl := Option.some.inj h
          exact ⟨'t', _, rfl, rfl⟩
      | false =>
          obtain rfl := Option.some.inj h
          exact ⟨'f', _, rfl, rfl⟩
  | number q =>
      simp only [stableChars] at h
      split at h
      · obtain rfl := Option.some.inj h
        obtain ⟨c, r, htext, -, hc⟩ := integerText_cons q.num
        refine ⟨c, r, htext, ?_⟩
        rcases hc with rfl | ⟨d, rfl⟩
        · rfl
        · exact kindOf_digitChar d
      · cases h
  | string s =>
      simp only [stableChars] at h
      obtain rfl := Option.some.inj h
      exact ⟨'"', _, rfl, rfl⟩
  | array items =>
      simp only [stableChars, Option.map_eq_some_iff] at h
      obtain ⟨cells, -, rfl⟩ := h
      exact ⟨'[', _, rfl, rfl⟩
  | object fields =>
      simp only [stableChars, Option.map_eq_some_iff] at h
      obtain ⟨entries, -, rfl⟩ := h
      exact ⟨'{', _, rfl, rfl⟩

lemma begins_of_stableChars {v : Value} {a : List Char} (h : stableChars v = some a) :
    Begins a := by
  obtain ⟨c, r, rfl, hkind⟩ := stableChars_cons h
  refine ⟨List.cons_ne_nil _ _, fun hends => ?_⟩
  have hlt : v.kind < 7 := by
    unfold Value.kind
    split <;> omega
  rcases hends c rfl with rfl | rfl | rfl
  · exact absurd hlt (hkind ▸ by decide)
  · exact absurd hlt (hkind ▸ by decide)
  · exact absurd hlt (hkind ▸ by decide)

lemma begins_fieldText (entry : String × List Char) : Begins (fieldText entry) := by
  refine ⟨List.cons_ne_nil _ _, fun hends => ?_⟩
  rcases hends '"' rfl with h | h | h <;> exact absurd h (by decide)

/-- A field is read in one way when its value is. -/
lemma separable_fieldText {e e' : String × List Char} (h : Separable e.2 e'.2) :
    Separable (fieldText e) (fieldText e') := by
  intro s t hs ht heq
  simp only [fieldText, List.append_assoc, List.cons_append] at heq
  obtain ⟨hkey, hrest⟩ := quote_append_injective heq
  obtain ⟨htext, hst⟩ := h s t hs ht (List.cons.inj hrest).2
  refine ⟨?_, hst⟩
  unfold fieldText
  rw [hkey, htext]

lemma mem_itemTexts {items : List Value} {cells : List (List Char)}
    (h : itemTexts items = some cells) {cell : List Char} (hcell : cell ∈ cells) :
    ∃ v ∈ items, stableChars v = some cell :=
  (Reordered.of_forall₂ (itemTexts_eq_some.mp h)).exists_left hcell

lemma mem_fieldTexts {fields : List (String × Value)} {entries : List (String × List Char)}
    (h : fieldTexts fields = some entries) {entry : String × List Char} (hentry : entry ∈ entries) :
    ∃ f ∈ fields, entry.1 = f.1 ∧ stableChars f.2 = some entry.2 :=
  (Reordered.of_forall₂ (fieldTexts_eq_some.mp h)).exists_left hentry

lemma mem_sortedFields {entries : List (String × List Char)} {cell : List Char}
    (h : cell ∈ (sortBy Prod.fst entries).map fieldText) :
    ∃ entry ∈ entries, fieldText entry = cell := by
  obtain ⟨entry, hentry, heq⟩ := List.mem_map.mp h
  exact ⟨entry, (sortBy_perm Prod.fst entries).mem_iff.mp hentry, heq⟩

/-- Texts with one beginning are texts of one kind. -/
lemma kind_eq {u v : Value} {a b s t : List Char} (ha : stableChars u = some a)
    (hb : stableChars v = some b) (h : a ++ s = b ++ t) : v.kind = u.kind := by
  obtain ⟨c, r, rfl, hc⟩ := stableChars_cons ha
  obtain ⟨d, r', rfl, hd⟩ := stableChars_cons hb
  rw [← hc, ← hd, (List.cons.inj h).1]

/-- No text of a value is the beginning of another one that goes on differently. -/
theorem stableChars_prefixFree (u : Value) : ∀ {v : Value} {a b : List Char},
    stableChars u = some a → stableChars v = some b → Separable a b := by
  induction u using Value.induction with
  | null =>
      intro v a b ha hb s t hs ht h
      have hkind := kind_eq ha hb h
      cases v with
      | null =>
          obtain rfl := Option.some.inj (ha.symm.trans hb)
          exact ⟨rfl, List.append_cancel_left h⟩
      | _ => exact absurd hkind (by simp [Value.kind])
  | bool c =>
      intro v a b ha hb s t hs ht h
      have hkind := kind_eq ha hb h
      cases v with
      | bool d =>
          cases c with
          | true =>
              cases d with
              | true =>
                  obtain rfl := Option.some.inj (ha.symm.trans hb)
                  exact ⟨rfl, List.append_cancel_left h⟩
              | false =>
                  obtain rfl := Option.some.inj ha
                  obtain rfl := Option.some.inj hb
                  exact absurd (List.cons.inj h).1 (by decide)
          | false =>
              cases d with
              | true =>
                  obtain rfl := Option.some.inj ha
                  obtain rfl := Option.some.inj hb
                  exact absurd (List.cons.inj h).1 (by decide)
              | false =>
                  obtain rfl := Option.some.inj (ha.symm.trans hb)
                  exact ⟨rfl, List.append_cancel_left h⟩
      | _ => exact absurd hkind (by simp [Value.kind])
  | number q =>
      intro v a b ha hb s t hs ht h
      have hkind := kind_eq ha hb h
      cases v with
      | number r =>
          simp only [stableChars, Option.ite_none_right_eq_some, Option.some.injEq] at ha hb
          obtain ⟨-, rfl⟩ := ha
          obtain ⟨-, rfl⟩ := hb
          obtain ⟨hnum, hst⟩ := integerText_append_injective hs ht h
          exact ⟨by rw [hnum], hst⟩
      | _ => exact absurd hkind (by simp [Value.kind])
  | string x =>
      intro v a b ha hb s t hs ht h
      have hkind := kind_eq ha hb h
      cases v with
      | string y =>
          simp only [stableChars, Option.some.injEq] at ha hb
          obtain rfl := ha
          obtain rfl := hb
          obtain ⟨hxy, hst⟩ := quote_append_injective h
          exact ⟨by rw [hxy], hst⟩
      | _ => exact absurd hkind (by simp [Value.kind])
  | array items ih =>
      intro v a b ha hb s t hs ht h
      have hkind := kind_eq ha hb h
      cases v with
      | array items' =>
          simp only [stableChars, Option.map_eq_some_iff] at ha hb
          obtain ⟨cells, hcells, rfl⟩ := ha
          obtain ⟨cells', hcells', rfl⟩ := hb
          simp only [List.cons_append, List.append_assoc, List.nil_append, List.cons.injEq,
            true_and] at h
          have hsep : ∀ x ∈ cells, ∀ y ∈ cells', Separable x y := by
            intro x hx y hy
            obtain ⟨u, hu, hux⟩ := mem_itemTexts hcells hx
            obtain ⟨w, -, hwy⟩ := mem_itemTexts hcells' hy
            exact ih u hu hux hwy
          have hbegins : ∀ x ∈ cells, Begins x := by
            intro x hx
            obtain ⟨u, -, hux⟩ := mem_itemTexts hcells hx
            exact begins_of_stableChars hux
          have hbegins' : ∀ y ∈ cells', Begins y := by
            intro y hy
            obtain ⟨w, -, hwy⟩ := mem_itemTexts hcells' hy
            exact begins_of_stableChars hwy
          obtain ⟨hcells, hst⟩ :=
            commaSeparated_append_injective (Or.inl rfl) hsep hbegins hbegins' h
          exact ⟨by rw [hcells], hst⟩
      | _ => exact absurd hkind (by simp [Value.kind])
  | object fields ih =>
      intro v a b ha hb s t hs ht h
      have hkind := kind_eq ha hb h
      cases v with
      | object fields' =>
          simp only [stableChars, Option.map_eq_some_iff] at ha hb
          obtain ⟨entries, hentries, rfl⟩ := ha
          obtain ⟨entries', hentries', rfl⟩ := hb
          simp only [List.cons_append, List.append_assoc, List.nil_append, List.cons.injEq,
            true_and] at h
          have hsep : ∀ x ∈ (sortBy Prod.fst entries).map fieldText,
              ∀ y ∈ (sortBy Prod.fst entries').map fieldText, Separable x y := by
            intro x hx y hy
            obtain ⟨e, he, rfl⟩ := mem_sortedFields hx
            obtain ⟨e', he', rfl⟩ := mem_sortedFields hy
            obtain ⟨f, hf, -, htext⟩ := mem_fieldTexts hentries he
            obtain ⟨f', -, -, htext'⟩ := mem_fieldTexts hentries' he'
            exact separable_fieldText (ih f hf htext htext')
          have hbegins : ∀ (es : List (String × List Char)),
              ∀ x ∈ (sortBy Prod.fst es).map fieldText, Begins x := by
            intro es x hx
            obtain ⟨e, -, rfl⟩ := mem_sortedFields hx
            exact begins_fieldText e
          obtain ⟨hcells, hst⟩ := commaSeparated_append_injective (Or.inr rfl) hsep
            (hbegins entries) (hbegins entries') h
          exact ⟨by rw [hcells], hst⟩
      | _ => exact absurd hkind (by simp [Value.kind])

/-! ## Values with one text -/

/-- Arrays with one text have items with one text. -/
lemma itemTexts_eq_of_stableChars_eq {items items' : List Value} {a : List Char}
    (h : stableChars (.array items) = some a) (h' : stableChars (.array items') = some a) :
    ∃ cells, itemTexts items = some cells ∧ itemTexts items' = some cells := by
  simp only [stableChars, Option.map_eq_some_iff] at h h'
  obtain ⟨cells, hcells, rfl⟩ := h
  obtain ⟨cells', hcells', heq⟩ := h'
  have hsep : ∀ x ∈ cells', ∀ y ∈ cells, Separable x y := by
    intro x hx y hy
    obtain ⟨u, -, hux⟩ := mem_itemTexts hcells' hx
    obtain ⟨w, -, hwy⟩ := mem_itemTexts hcells hy
    exact stableChars_prefixFree u hux hwy
  have hbegins : ∀ {vs : List Value} {texts : List (List Char)}, itemTexts vs = some texts →
      ∀ x ∈ texts, Begins x := by
    intro vs texts htexts x hx
    obtain ⟨u, -, hux⟩ := mem_itemTexts htexts hx
    exact begins_of_stableChars hux
  obtain ⟨rfl, -⟩ := commaSeparated_append_injective (Or.inl rfl) hsep (hbegins hcells')
    (hbegins hcells) (List.cons.inj heq).2
  exact ⟨cells', hcells, hcells'⟩

lemma fieldText_injective : Function.Injective fieldText := by
  intro e e' h
  obtain ⟨hkey, hrest⟩ := quote_append_injective h
  exact Prod.ext hkey (List.cons.inj hrest).2

/-- Objects with one text have fields with one text, up to their order. -/
lemma fieldTexts_perm_of_stableChars_eq {fields fields' : List (String × Value)} {a : List Char}
    (h : stableChars (.object fields) = some a) (h' : stableChars (.object fields') = some a) :
    ∃ entries entries', fieldTexts fields = some entries ∧ fieldTexts fields' = some entries' ∧
      entries.Perm entries' := by
  simp only [stableChars, Option.map_eq_some_iff] at h h'
  obtain ⟨entries, hentries, rfl⟩ := h
  obtain ⟨entries', hentries', heq⟩ := h'
  have hsep : ∀ x ∈ (sortBy Prod.fst entries').map fieldText,
      ∀ y ∈ (sortBy Prod.fst entries).map fieldText, Separable x y := by
    intro x hx y hy
    obtain ⟨e, he, rfl⟩ := mem_sortedFields hx
    obtain ⟨e', he', rfl⟩ := mem_sortedFields hy
    obtain ⟨f, -, -, htext⟩ := mem_fieldTexts hentries' he
    obtain ⟨f', -, -, htext'⟩ := mem_fieldTexts hentries he'
    exact separable_fieldText (stableChars_prefixFree f.2 htext htext')
  have hbegins : ∀ (es : List (String × List Char)),
      ∀ x ∈ (sortBy Prod.fst es).map fieldText, Begins x := by
    intro es x hx
    obtain ⟨e, -, rfl⟩ := mem_sortedFields hx
    exact begins_fieldText e
  obtain ⟨hcells, -⟩ := commaSeparated_append_injective (Or.inr rfl) hsep (hbegins entries')
    (hbegins entries) (List.cons.inj heq).2
  have hsorted : sortBy Prod.fst entries' = sortBy Prod.fst entries :=
    List.map_injective_iff.mpr fieldText_injective hcells
  refine ⟨entries, entries', hentries, hentries', ?_⟩
  exact (sortBy_perm Prod.fst entries).symm.trans (hsorted ▸ sortBy_perm Prod.fst entries')

namespace KeyReordering

/-- Items that are reordered one by one. -/
lemma array_of_forall₂ {items items' : List Value}
    (h : List.Forall₂ KeyReordering items items') :
    KeyReordering (.array items) (.array items') := by
  have hprefix : ∀ l : List Value, KeyReordering (.array (l ++ items)) (.array (l ++ items')) := by
    induction h with
    | nil => exact fun l => .refl _
    | @cons u v us vs huv _ ih =>
        intro l
        have hrest := ih (l ++ [v])
        rw [List.append_assoc, List.append_assoc] at hrest
        exact (KeyReordering.item l us huv).trans hrest
  exact hprefix []

/-- Fields that are reordered one by one. -/
lemma object_of_forall₂ {fields fields' : List (String × Value)}
    (h : List.Forall₂ (fun f g => f.1 = g.1 ∧ KeyReordering f.2 g.2) fields fields') :
    KeyReordering (.object fields) (.object fields') := by
  have hprefix : ∀ l : List (String × Value),
      KeyReordering (.object (l ++ fields)) (.object (l ++ fields')) := by
    induction h with
    | nil => exact fun l => .refl _
    | @cons f g fs gs hfg _ ih =>
        intro l
        obtain ⟨key, u⟩ := f
        obtain ⟨key', v⟩ := g
        obtain ⟨hkey, huv⟩ := hfg
        obtain rfl : key = key' := hkey
        have hrest := ih (l ++ [(key, v)])
        rw [List.append_assoc, List.append_assoc] at hrest
        exact (KeyReordering.field l fs key huv).trans hrest
  exact hprefix []

end KeyReordering

/-- Fields with texts that are the same up to their order are the same fields up to theirs. -/
lemma reordered_fields {fields fields' : List (String × Value)}
    {entries entries' : List (String × List Char)} (h : fieldTexts fields = some entries)
    (h' : fieldTexts fields' = some entries') (hperm : entries.Perm entries') :
    ∃ k, k.Perm fields' ∧ List.Forall₂ (fun f g => f.1 = g.1 ∧
      ∃ text, stableChars f.2 = some text ∧ stableChars g.2 = some text) fields k := by
  obtain ⟨k, hk, hkperm⟩ := List.perm_comp_forall₂ hperm (fieldTexts_eq_some.mp h').flip
  refine ⟨k, hkperm, ?_⟩
  have hfields := fieldTexts_eq_some.mp h
  clear h h' hperm hkperm
  induction hfields generalizing k with
  | nil =>
      rw [List.forall₂_nil_left_iff] at hk
      rw [hk]
      exact List.Forall₂.nil
  | cons hf _ ih =>
      obtain ⟨g, gs, hg, hgs, rfl⟩ := List.forall₂_cons_left_iff.mp hk
      exact List.Forall₂.cons ⟨hf.1.symm.trans hg.1, _, hf.2, hg.2⟩ (ih gs hgs)

lemma stableChars_number_injective {q r : ℚ} {a : List Char}
    (h : stableChars (.number q) = some a) (h' : stableChars (.number r) = some a) : q = r := by
  simp only [stableChars, Option.ite_none_right_eq_some, Option.some.injEq] at h h'
  obtain ⟨hq, rfl⟩ := h
  obtain ⟨hr, h'⟩ := h'
  have hends : Ends [] := fun c hc => by cases hc
  obtain ⟨hnum, -⟩ := integerText_append_injective (s := []) (t := []) hends hends
    (congrArg (· ++ []) h')
  exact (Rat.ext hnum (hr.1.trans hq.1.symm)).symm

lemma stableChars_string_injective {s t : String} {a : List Char}
    (h : stableChars (.string s) = some a) (h' : stableChars (.string t) = some a) : s = t := by
  simp only [stableChars, Option.some.injEq] at h h'
  have hquote : quote s ++ [] = quote t ++ [] := by rw [h, h']
  exact (quote_append_injective hquote).1

/-- Values with one text differ by the order of fields at most. -/
theorem keyReordering_of_stableChars_eq (u : Value) : ∀ {v : Value} {a : List Char},
    stableChars u = some a → stableChars v = some a → KeyReordering u v := by
  induction u using Value.induction with
  | null =>
      intro v a ha hb
      have hkind := kind_eq (s := []) (t := []) ha hb rfl
      cases v with
      | null => exact .refl _
      | _ => exact absurd hkind (by simp [Value.kind])
  | bool c =>
      intro v a ha hb
      have hkind := kind_eq (s := []) (t := []) ha hb rfl
      cases v with
      | bool d =>
          have hcd : c = d := by
            cases c <;> cases d <;> first | rfl | exact absurd (ha.trans hb.symm) (by decide)
          rw [hcd]
          exact .refl _
      | _ => exact absurd hkind (by simp [Value.kind])
  | number q =>
      intro v a ha hb
      have hkind := kind_eq (s := []) (t := []) ha hb rfl
      cases v with
      | number r =>
          rw [stableChars_number_injective ha hb]
          exact .refl _
      | _ => exact absurd hkind (by simp [Value.kind])
  | string x =>
      intro v a ha hb
      have hkind := kind_eq (s := []) (t := []) ha hb rfl
      cases v with
      | string y =>
          rw [stableChars_string_injective ha hb]
          exact .refl _
      | _ => exact absurd hkind (by simp [Value.kind])
  | array items ih =>
      intro v a ha hb
      have hkind := kind_eq (s := []) (t := []) ha hb rfl
      cases v with
      | array items' =>
          obtain ⟨cells, hcells, hcells'⟩ := itemTexts_eq_of_stableChars_eq ha hb
          refine KeyReordering.array_of_forall₂ ?_
          have hl := itemTexts_eq_some.mp hcells
          have hm := itemTexts_eq_some.mp hcells'
          clear hcells hcells' ha hb hkind
          induction hl generalizing items' with
          | nil =>
              rw [List.forall₂_nil_right_iff] at hm
              rw [hm]
              exact List.Forall₂.nil
          | cons hu _ ihl =>
              obtain ⟨w, ws, hw, hws, rfl⟩ := List.forall₂_cons_right_iff.mp hm
              refine List.Forall₂.cons (ih _ List.mem_cons_self hu hw) ?_
              exact ihl (fun x hx => ih x (List.mem_cons_of_mem _ hx)) ws hws
      | _ => exact absurd hkind (by simp [Value.kind])
  | object fields ih =>
      intro v a ha hb
      have hkind := kind_eq (s := []) (t := []) ha hb rfl
      cases v with
      | object fields' =>
          obtain ⟨entries, entries', hentries, hentries', hperm⟩ :=
            fieldTexts_perm_of_stableChars_eq ha hb
          obtain ⟨k, hkperm, hk⟩ := reordered_fields hentries hentries' hperm
          refine (KeyReordering.object_of_forall₂ ?_).trans (.perm hkperm)
          clear hkperm hentries hentries' hperm ha hb hkind
          induction hk with
          | nil => exact List.Forall₂.nil
          | cons hf _ ihk =>
              obtain ⟨hkey, text, htext, htext'⟩ := hf
              refine List.Forall₂.cons ⟨hkey, ih _ List.mem_cons_self htext htext'⟩ ?_
              exact ihk fun x hx => ih x (List.mem_cons_of_mem _ hx)
      | _ => exact absurd hkind (by simp [Value.kind])

/-! ## Reordering fields does not change the text -/

lemma wellFormed_array {items : List Value} :
    WellFormed (.array items) ↔ ∀ v ∈ items, WellFormed v := by
  constructor
  · rintro (_ | _ | _ | _ | h)
    exact h
  · exact .array

lemma wellFormed_object {fields : List (String × Value)} :
    WellFormed (.object fields) ↔
      (fields.map Prod.fst).Nodup ∧ ∀ f ∈ fields, WellFormed f.2 := by
  constructor
  · rintro (_ | _ | _ | _ | _ | ⟨hkeys, h⟩)
    exact ⟨hkeys, h⟩
  · exact fun h => .object h.1 h.2

lemma fieldTexts_keys {fields : List (String × Value)} {entries : List (String × List Char)}
    (h : fieldTexts fields = some entries) : entries.map Prod.fst = fields.map Prod.fst := by
  have hfields := fieldTexts_eq_some.mp h
  clear h
  induction hfields with
  | nil => rfl
  | cons hf _ ih => rw [List.map_cons, List.map_cons, hf.1, ih]

/-- Fields in another order have their texts in another order. -/
lemma fieldTexts_perm {fields fields' : List (String × Value)} (h : fields.Perm fields')
    {entries : List (String × List Char)} (hentries : fieldTexts fields = some entries) :
    ∃ entries', fieldTexts fields' = some entries' ∧ entries'.Perm entries := by
  obtain ⟨entries', hentries', hperm⟩ :=
    List.perm_comp_forall₂ h.symm (fieldTexts_eq_some.mp hentries)
  exact ⟨entries', fieldTexts_eq_some.mpr hentries', hperm⟩

/-- Sorted by distinct names, fields do not depend on their order. -/
lemma stableChars_object_perm {fields fields' : List (String × Value)}
    (h : fields.Perm fields') (hkeys : (fields.map Prod.fst).Nodup) :
    stableChars (.object fields) = stableChars (.object fields') := by
  simp only [stableChars]
  cases hentries : fieldTexts fields with
  | none =>
      cases hentries' : fieldTexts fields' with
      | none => rfl
      | some entries' =>
          obtain ⟨entries, hsome, -⟩ := fieldTexts_perm h.symm hentries'
          rw [hentries] at hsome
          cases hsome
  | some entries =>
      obtain ⟨entries', hentries', hperm⟩ := fieldTexts_perm h hentries
      rw [hentries', Option.map_some, Option.map_some]
      have hnodup : (entries.map Prod.fst).Nodup := fieldTexts_keys hentries ▸ hkeys
      rw [sortBy_eq_of_perm hperm.symm fun e he e' he' hkey =>
        List.inj_on_of_nodup_map hnodup he he' hkey]

/-- An item or a field with the same text can be put in place. -/
lemma itemTexts_append_congr {u v : Value} (h : stableChars u = stableChars v)
    (l m : List Value) : itemTexts (l ++ u :: m) = itemTexts (l ++ v :: m) := by
  induction l with
  | nil => rw [List.nil_append, List.nil_append, itemTexts, itemTexts, h]
  | cons w l ih => rw [List.cons_append, List.cons_append, itemTexts, itemTexts, ih]

lemma fieldTexts_append_congr {u v : Value} (h : stableChars u = stableChars v) (key : String)
    (l m : List (String × Value)) :
    fieldTexts (l ++ (key, u) :: m) = fieldTexts (l ++ (key, v) :: m) := by
  induction l with
  | nil => rw [List.nil_append, List.nil_append, fieldTexts, fieldTexts, h]
  | cons f l ih =>
      obtain ⟨k, w⟩ := f
      rw [List.cons_append, List.cons_append, fieldTexts, fieldTexts, ih]

/-- Reordering fields keeps a value well formed and does not change its text. -/
theorem KeyReordering.stableChars_eq {u v : Value} (h : KeyReordering u v) (hu : WellFormed u) :
    WellFormed v ∧ stableChars u = stableChars v := by
  induction h with
  | refl v => exact ⟨hu, rfl⟩
  | trans _ _ ih ih' =>
      obtain ⟨hv, huv⟩ := ih hu
      obtain ⟨hw, hvw⟩ := ih' hv
      exact ⟨hw, huv.trans hvw⟩
  | perm h =>
      obtain ⟨hkeys, hfields⟩ := wellFormed_object.mp hu
      refine ⟨wellFormed_object.mpr ⟨(h.map Prod.fst).nodup_iff.mp hkeys, fun f hf => ?_⟩,
        stableChars_object_perm h hkeys⟩
      exact hfields f (h.mem_iff.mpr hf)
  | @item u v l m _ ih =>
      have hitems := wellFormed_array.mp hu
      obtain ⟨hv, huv⟩ := ih (hitems u (List.mem_append_right _ List.mem_cons_self))
      refine ⟨wellFormed_array.mpr fun w hw => ?_, ?_⟩
      · rcases List.mem_append.mp hw with hw | hw
        · exact hitems w (List.mem_append_left _ hw)
        · rcases List.mem_cons.mp hw with rfl | hw
          · exact hv
          · exact hitems w (List.mem_append_right _ (List.mem_cons_of_mem _ hw))
      · rw [stableChars, stableChars, itemTexts_append_congr huv]
  | @field u v l m key _ ih =>
      obtain ⟨hkeys, hfields⟩ := wellFormed_object.mp hu
      obtain ⟨hv, huv⟩ := ih (hfields (key, u) (List.mem_append_right _ List.mem_cons_self))
      refine ⟨wellFormed_object.mpr ⟨?_, fun f hf => ?_⟩, ?_⟩
      · simpa using hkeys
      · rcases List.mem_append.mp hf with hf | hf
        · exact hfields f (List.mem_append_left _ hf)
        · rcases List.mem_cons.mp hf with rfl | hf
          · exact hv
          · exact hfields f (List.mem_append_right _ (List.mem_cons_of_mem _ hf))
      · rw [stableChars, stableChars, fieldTexts_append_congr huv]

/-- A text says what a value is up to the order of fields. -/
theorem stableJson_eq_iff {u v : Value} (hu : WellFormed u) {text : String}
    (htext : stableJson u = some text) : stableJson v = some text ↔ KeyReordering u v := by
  unfold stableJson at htext ⊢
  obtain ⟨a, ha, rfl⟩ := Option.map_eq_some_iff.mp htext
  constructor
  · intro h
    obtain ⟨b, hb, hba⟩ := Option.map_eq_some_iff.mp h
    obtain rfl := String.ofList_inj.mp hba
    exact keyReordering_of_stableChars_eq u ha hb
  · intro h
    rw [← (h.stableChars_eq hu).2, ha]
    rfl

/-! ## Objects with the same names -/

/-- Lists of fields with the same distinct names in the same order. -/
lemma eq_of_perm_of_keys {α : Type*} {l m : List (String × α)} (h : l.Perm m)
    (hkeys : l.map Prod.fst = m.map Prod.fst) (hnodup : (m.map Prod.fst).Nodup) : l = m := by
  induction l generalizing m with
  | nil => exact h.nil_eq
  | cons f l ih =>
      cases m with
      | nil => exact absurd h.eq_nil (List.cons_ne_nil _ _)
      | cons g m =>
          rw [List.map_cons, List.map_cons, List.cons.injEq] at hkeys
          have hfg : f = g := by
            rcases List.mem_cons.mp (h.mem_iff.mp List.mem_cons_self) with hfg | hmem
            · exact hfg
            · refine absurd ?_ (List.nodup_cons.mp hnodup).1
              rw [← hkeys.1]
              exact List.mem_map_of_mem hmem
          subst hfg
          rw [ih (List.perm_cons f |>.mp h) hkeys.2 (List.nodup_cons.mp hnodup).2]

/-- Objects with the same names and one text have the same texts of fields. -/
lemma stableChars_object_injective {fields fields' : List (String × Value)} {a : List Char}
    (hkeys : fields.map Prod.fst = fields'.map Prod.fst) (hnodup : (fields'.map Prod.fst).Nodup)
    (h : stableChars (.object fields) = some a) (h' : stableChars (.object fields') = some a) :
    List.Forall₂ (fun f g => ∃ text, stableChars f.2 = some text ∧ stableChars g.2 = some text)
      fields fields' := by
  obtain ⟨entries, entries', hentries, hentries', hperm⟩ := fieldTexts_perm_of_stableChars_eq h h'
  obtain ⟨k, hkperm, hk⟩ := reordered_fields hentries hentries' hperm
  have hkfields : fields.map Prod.fst = k.map Prod.fst := by
    clear hkperm hentries hentries' hperm h h' hkeys
    induction hk with
    | nil => rfl
    | cons hf _ ih => rw [List.map_cons, List.map_cons, hf.1, ih]
  have heq : k = fields' := eq_of_perm_of_keys hkperm (hkfields.symm.trans hkeys) hnodup
  rw [← heq]
  exact hk.imp fun _ _ hf => hf.2

/-- Arrays of items that differ by their texts. -/
lemma stableChars_array_injective {α : Type*} {f : α → Value}
    (hf : ∀ x y text, stableChars (f x) = some text → stableChars (f y) = some text → x = y)
    {l m : List α} {a : List Char} (h : stableChars (.array (l.map f)) = some a)
    (h' : stableChars (.array (m.map f)) = some a) : l = m := by
  obtain ⟨cells, hcells, hcells'⟩ := itemTexts_eq_of_stableChars_eq h h'
  have hl := itemTexts_eq_some.mp hcells
  have hm := itemTexts_eq_some.mp hcells'
  rw [List.forall₂_map_left_iff] at hl hm
  clear h h' hcells hcells'
  induction hl generalizing m with
  | nil => exact (List.forall₂_nil_right_iff.mp hm).symm
  | cons hx _ ih =>
      obtain ⟨y, ys, hy, hys, rfl⟩ := List.forall₂_cons_right_iff.mp hm
      rw [hf _ _ _ hx hy, ih hys]

end VendorDashboard.StableJson

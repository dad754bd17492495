import Mathlib.Algebra.Order.Ring.Rat
import Mathlib.Algebra.Order.BigOperators.Group.List
import Mathlib.Data.Int.Log
import Mathlib.Data.List.DropRight
import Mathlib.Data.Nat.Digits.Lemmas
import Mathlib.Data.Rat.Floor
import Mathlib.Tactic.FieldSimp
import Mathlib.Tactic.Linarith
import Mathlib.Tactic.Positivity
import Mathlib.Tactic.Ring

/-!
# Decimal numbers as text

`scanDecimal` reads an exact decimal: a sign, an integer without leading zeros and a fraction.  A
`DecimalText` carries that form, so its plain text, without a plus sign and without zeros at the
end of the fraction, says what number it is and nothing else (`plainText_eq_iff`).

A decimal library that works with a fixed number of significant digits reads such a text exactly
and rounds the results of its operations.  `roundSignificant` is the rounding, half away from zero;
it leaves a number that has no more digits as it is (`roundSignificant_eq_self`).
-/

namespace VendorDashboard.Decimal

/-! ## Digits -/

def digitChar (n : ℕ) : Char := Char.ofNat (48 + n % 10)

def digitValue (c : Char) : Option ℕ :=
  if '0' ≤ c ∧ c ≤ '9' then some (c.toNat - 48) else none

def isDigit (c : Char) : Bool := (digitValue c).isSome

lemma digitValue_digitChar (n : ℕ) : digitValue (digitChar n) = some (n % 10) := by
  have hlt : n % 10 < 10 := Nat.mod_lt n (by omega)
  unfold digitChar
  interval_cases n % 10 <;> rfl

lemma isDigit_digitChar (n : ℕ) : isDigit (digitChar n) = true := by
  unfold isDigit
  rw [digitValue_digitChar]
  rfl

lemma digitChar_congr {m n : ℕ} (h : m % 10 = n % 10) : digitChar m = digitChar n := by
  unfold digitChar
  rw [h]

/-- Digits are read back from their text. -/
lemma map_digitChar_injective {l m : List ℕ} (hl : ∀ d ∈ l, d < 10) (hm : ∀ d ∈ m, d < 10)
    (h : l.map digitChar = m.map digitChar) : l = m := by
  have hread : ∀ k : List ℕ, (∀ d ∈ k, d < 10) →
      (k.map digitChar).filterMap digitValue = k := by
    intro k hk
    rw [List.filterMap_map]
    calc k.filterMap (digitValue ∘ digitChar) = k.filterMap some :=
          List.filterMap_congr fun d hd => by
            rw [Function.comp_apply, digitValue_digitChar, Nat.mod_eq_of_lt (hk d hd)]
      _ = k := List.filterMap_some
  rw [← hread l hl, h, hread m hm]

/-- A number in digits ends where the digits end. -/
lemma digits_append_injective {l m : List ℕ} {s t : List Char} (hl : ∀ d ∈ l, d < 10)
    (hm : ∀ d ∈ m, d < 10) (hs : ∀ c ∈ s.head?, isDigit c = false)
    (ht : ∀ c ∈ t.head?, isDigit c = false)
    (h : l.map digitChar ++ s = m.map digitChar ++ t) : l = m ∧ s = t := by
  have htake : ∀ (k : List ℕ) (u : List Char), (∀ c ∈ u.head?, isDigit c = false) →
      (k.map digitChar ++ u).takeWhile isDigit = k.map digitChar := by
    intro k u hu
    rw [List.takeWhile_append_of_pos fun c hc => by
      obtain ⟨d, -, rfl⟩ := List.mem_map.mp hc
      exact isDigit_digitChar d]
    cases u with
    | nil => rw [List.takeWhile_nil, List.append_nil]
    | cons c u =>
        rw [List.takeWhile_cons_of_neg (by simp [hu c rfl]), List.append_nil]
  have hdigits : l.map digitChar = m.map digitChar := by
    rw [← htake l s hs, h, htake m t ht]
  refine ⟨map_digitChar_injective hl hm hdigits, ?_⟩
  rw [hdigits] at h
  exact List.append_cancel_left h

/-! ## The number of a list of digits -/

/-- The number whose digits are `l`, the first one of the highest value. -/
def natOf (l : List ℕ) : ℕ := Nat.ofDigits 10 l.reverse

lemma natOf_append (l m : List ℕ) : natOf (l ++ m) = natOf l * 10 ^ m.length + natOf m := by
  unfold natOf
  rw [List.reverse_append, Nat.ofDigits_append, List.length_reverse]
  ring

lemma natOf_concat (l : List ℕ) (d : ℕ) : natOf (l ++ [d]) = natOf l * 10 + d := by
  rw [natOf_append]
  simp [natOf]

lemma natOf_lt {l : List ℕ} (hl : ∀ d ∈ l, d < 10) : natOf l < 10 ^ l.length := by
  have h := Nat.ofDigits_lt_base_pow_length (b := 10) (by omega)
    fun d (hd : d ∈ l.reverse) => hl d (List.mem_reverse.mp hd)
  rwa [List.length_reverse] at h

/-- Of the same length, two lists of digits with one number are the same. -/
lemma natOf_injective {l m : List ℕ} (hl : ∀ d ∈ l, d < 10) (hm : ∀ d ∈ m, d < 10)
    (hlength : l.length = m.length) (h : natOf l = natOf m) : l = m := by
  have hreverse := Nat.ofDigits_inj_of_len_eq (b := 10) (by omega)
    (by rw [List.length_reverse, List.length_reverse, hlength])
    (fun d hd => hl d (List.mem_reverse.mp hd)) (fun d hd => hm d (List.mem_reverse.mp hd)) h
  exact List.reverse_injective hreverse

/-- The digits of a number without leading zeros. -/
structure IsNumeral (l : List ℕ) : Prop where
  lt : ∀ d ∈ l, d < 10
  ne_nil : l ≠ []
  leading : l.head? = some 0 → l = [0]

instance (l : List ℕ) : Decidable (IsNumeral l) :=
  decidable_of_iff ((∀ d ∈ l, d < 10) ∧ l ≠ [] ∧ (l.head? = some 0 → l = [0]))
    ⟨fun h => ⟨h.1, h.2.1, h.2.2⟩, fun h => ⟨h.lt, h.ne_nil, h.leading⟩⟩

lemma IsNumeral.digits {l : List ℕ} (h : IsNumeral l) (hne : l ≠ [0]) :
    Nat.digits 10 (natOf l) = l.reverse := by
  refine Nat.digits_ofDigits 10 (by omega) _ (fun d hd => h.lt d (List.mem_reverse.mp hd)) ?_
  intro hrev hlast
  rw [List.getLast_reverse] at hlast
  obtain ⟨d, rest, rfl⟩ := List.exists_cons_of_ne_nil h.ne_nil
  exact hne (h.leading (congrArg some hlast))

lemma IsNumeral.natOf_ne_zero {l : List ℕ} (h : IsNumeral l) (hne : l ≠ [0]) : natOf l ≠ 0 := by
  intro hzero
  have hdigits := h.digits hne
  rw [hzero, Nat.digits_zero] at hdigits
  exact h.ne_nil (List.reverse_eq_nil_iff.mp hdigits.symm)

/-- A number has one numeral. -/
lemma IsNumeral.natOf_injective {l m : List ℕ} (hl : IsNumeral l) (hm : IsNumeral m)
    (h : natOf l = natOf m) : l = m := by
  by_cases hl0 : l = [0]
  · by_contra hne
    exact hm.natOf_ne_zero (fun hm0 => hne (hl0.trans hm0.symm)) (by rw [← h, hl0]; rfl)
  · by_cases hm0 : m = [0]
    · exact absurd (by rw [h, hm0]; rfl) (hl.natOf_ne_zero hl0)
    · have hreverse : l.reverse = m.reverse := by rw [← hl.digits hl0, h, hm.digits hm0]
      exact List.reverse_injective hreverse

/-- A fraction without the zeros at its end. -/
def trimZeros (l : List ℕ) : List ℕ := l.rdropWhile fun d => d = 0

lemma trimZeros_concat_zero (l : List ℕ) : trimZeros (l ++ [0]) = trimZeros l :=
  List.rdropWhile_concat_pos _ _ _ rfl

lemma trimZeros_concat {d : ℕ} (hd : d ≠ 0) (l : List ℕ) : trimZeros (l ++ [d]) = l ++ [d] :=
  List.rdropWhile_concat_neg _ _ _ (by simpa using hd)

lemma mem_of_mem_trimZeros {l : List ℕ} {d : ℕ} (h : d ∈ trimZeros l) : d ∈ l :=
  (List.rdropWhile_prefix _ l).subset h

/-- The number that a fraction is of one. -/
def fractionValue (l : List ℕ) : ℚ := natOf l / 10 ^ l.length

lemma fractionValue_concat (l : List ℕ) (d : ℕ) :
    fractionValue (l ++ [d]) = fractionValue l + d / 10 ^ (l.length + 1) := by
  unfold fractionValue
  rw [natOf_concat, List.length_append, List.length_singleton]
  push_cast
  field_simp
  ring

lemma fractionValue_trimZeros (l : List ℕ) : fractionValue (trimZeros l) = fractionValue l := by
  induction l using List.reverseRecOn with
  | nil => rfl
  | append_singleton l d ih =>
      by_cases hd : d = 0
      · rw [hd, trimZeros_concat_zero, ih, fractionValue_concat]
        simp
      · rw [trimZeros_concat hd]

lemma fractionValue_nonneg (l : List ℕ) : 0 ≤ fractionValue l := by
  unfold fractionValue
  positivity

lemma fractionValue_lt_one {l : List ℕ} (hl : ∀ d ∈ l, d < 10) : fractionValue l < 1 := by
  unfold fractionValue
  rw [div_lt_one (by positivity)]
  exact_mod_cast natOf_lt hl

/-- The end of a trimmed fraction is not zero. -/
lemma getLast_trimZeros {l : List ℕ} (h : trimZeros l ≠ []) : (trimZeros l).getLast h ≠ 0 := by
  have hlast := List.rdropWhile_last_not (fun d => decide (d = 0)) l h
  exact fun hzero => hlast (decide_eq_true hzero)

/-- Trimmed, the shorter of two fractions of one value is not shorter. -/
lemma length_le_of_fractionValue_eq {l m : List ℕ} (hm : ∀ d ∈ m, d < 10)
    (h : fractionValue (trimZeros l) = fractionValue (trimZeros m)) : (trimZeros m).length ≤ (trimZeros l).length := by
  by_contra hlt
  have hlt' : (trimZeros l).length < (trimZeros m).length := not_le.mp hlt
  have hne : trimZeros m ≠ [] := fun hnil => by
    rw [hnil] at hlt'
    exact absurd hlt' (Nat.not_lt_zero _)
  obtain ⟨k, hk⟩ := Nat.exists_eq_add_of_lt hlt'
  have hnat : natOf (trimZeros m) = 10 * (10 ^ k * natOf (trimZeros l)) := by
    unfold fractionValue at h
    rw [hk, div_eq_div_iff (by positivity) (by positivity)] at h
    have hpow : ((10 : ℚ) ^ ((trimZeros l).length + k + 1)) =
        10 ^ (trimZeros l).length * (10 * 10 ^ k) := by ring
    rw [hpow] at h
    have hcancel : (natOf (trimZeros m) : ℚ) = 10 * (10 ^ k * natOf (trimZeros l)) := by
      have hpos : (0 : ℚ) < 10 ^ (trimZeros l).length := by positivity
      apply mul_right_cancel₀ hpos.ne'
      linarith
    exact_mod_cast hcancel
  have hsplit : natOf (trimZeros m) =
      natOf (trimZeros m).dropLast * 10 + (trimZeros m).getLast hne := by
    conv_lhs => rw [← List.dropLast_append_getLast hne]
    exact natOf_concat _ _
  have hlast : (trimZeros m).getLast hne < 10 :=
    hm _ (mem_of_mem_trimZeros (List.getLast_mem hne))
  have hzero := getLast_trimZeros hne
  omega

/-- Trimmed, a fraction has one list of digits. -/
lemma trimZeros_injective {l m : List ℕ} (hl : ∀ d ∈ l, d < 10) (hm : ∀ d ∈ m, d < 10)
    (h : fractionValue l = fractionValue m) : trimZeros l = trimZeros m := by
  rw [← fractionValue_trimZeros l, ← fractionValue_trimZeros m] at h
  have hlength : (trimZeros l).length = (trimZeros m).length :=
    le_antisymm (length_le_of_fractionValue_eq hl h.symm) (length_le_of_fractionValue_eq hm h)
  refine natOf_injective (fun d hd => hl d (mem_of_mem_trimZeros hd))
    (fun d hd => hm d (mem_of_mem_trimZeros hd)) hlength ?_
  unfold fractionValue at h
  rw [hlength] at h
  have hpos : (0 : ℚ) < 10 ^ (trimZeros m).length := by positivity
  exact_mod_cast (div_left_inj' hpos.ne').mp h

/-! ## Decimal texts -/

/-- An exact decimal: `/^[+-]?(?:0|[1-9]\d*)(?:\.\d+)?$/`. -/
structure DecimalText where
  negative : Bool
  integer : List ℕ
  fraction : List ℕ
  integer_numeral : IsNumeral integer
  fraction_lt : ∀ d ∈ fraction, d < 10
  deriving DecidableEq

def digitsOf (s : List Char) : Option (List ℕ) := s.mapM digitValue

/-- The digits after the point; a point must be followed by one. -/
def scanFractionPart : List Char → Option (List ℕ)
  | [] => some []
  | _ :: s => if s = [] then none else digitsOf s

def scanDecimal (s : List Char) : Option DecimalText :=
  let negative := decide (s.head? = some '-')
  let unsigned := if s.head? = some '-' ∨ s.head? = some '+' then s.tail else s
  (digitsOf (unsigned.takeWhile (· ≠ '.'))).bind fun integer =>
    (scanFractionPart (unsigned.dropWhile (· ≠ '.'))).bind fun fraction =>
      if h : IsNumeral integer ∧ ∀ d ∈ fraction, d < 10 then
        some ⟨negative, integer, fraction, h.1, h.2⟩
      else none

namespace DecimalText

variable (x y : DecimalText)

def magnitude : ℚ := natOf x.integer + fractionValue x.fraction

/-- The number that the text stands for. -/
def value : ℚ := if x.negative then -x.magnitude else x.magnitude

def magnitudeText : List Char :=
  x.integer.map digitChar ++
    if trimZeros x.fraction = [] then [] else '.' :: (trimZeros x.fraction).map digitChar

/-- The number without a plus sign, without zeros at the end, and with no sign when it is zero. -/
def plainText : String :=
  String.ofList (if x.negative = true ∧ x.magnitudeText ≠ ['0'] then '-' :: x.magnitudeText
    else x.magnitudeText)

variable {x y}

lemma magnitude_nonneg : 0 ≤ x.magnitude :=
  add_nonneg (Nat.cast_nonneg _) (fractionValue_nonneg _)

/-- The integer part and the trimmed fraction are determined by the number. -/
lemma magnitude_eq_iff : x.magnitude = y.magnitude ↔
    x.integer = y.integer ∧ trimZeros x.fraction = trimZeros y.fraction := by
  have hx0 := fractionValue_nonneg x.fraction
  have hy0 := fractionValue_nonneg y.fraction
  have hx1 := fractionValue_lt_one x.fraction_lt
  have hy1 := fractionValue_lt_one y.fraction_lt
  constructor
  · intro h
    unfold magnitude at h
    have hnat : natOf x.integer = natOf y.integer := by
      have hlt : (natOf x.integer : ℚ) < natOf y.integer + 1 := by linarith
      have hlt' : (natOf y.integer : ℚ) < natOf x.integer + 1 := by linarith
      have hle : natOf x.integer < natOf y.integer + 1 := by exact_mod_cast hlt
      have hle' : natOf y.integer < natOf x.integer + 1 := by exact_mod_cast hlt'
      omega
    rw [hnat] at h
    exact ⟨x.integer_numeral.natOf_injective y.integer_numeral hnat,
      trimZeros_injective x.fraction_lt y.fraction_lt (add_left_cancel h)⟩
  · rintro ⟨hinteger, hfraction⟩
    unfold magnitude
    rw [hinteger, ← fractionValue_trimZeros x.fraction, hfraction, fractionValue_trimZeros]

lemma magnitudeText_eq_iff : x.magnitudeText = y.magnitudeText ↔ x.magnitude = y.magnitude := by
  rw [magnitude_eq_iff]
  have hhead : ∀ z : DecimalText, ∀ c ∈ (if trimZeros z.fraction = [] then ([] : List Char)
      else '.' :: (trimZeros z.fraction).map digitChar).head?, isDigit c = false := by
    intro z c hc
    split at hc
    · cases hc
    · obtain rfl := Option.some.inj hc
      rfl
  constructor
  · intro h
    obtain ⟨hinteger, hrest⟩ := digits_append_injective x.integer_numeral.lt y.integer_numeral.lt
      (hhead x) (hhead y) h
    refine ⟨hinteger, ?_⟩
    split at hrest
    · rename_i hx
      split at hrest
      · rename_i hy
        rw [hx, hy]
      · cases hrest
    · split at hrest
      · cases hrest
      · exact map_digitChar_injective (fun d hd => x.fraction_lt d (mem_of_mem_trimZeros hd))
          (fun d hd => y.fraction_lt d (mem_of_mem_trimZeros hd)) (List.cons.inj hrest).2
  · rintro ⟨hinteger, hfraction⟩
    unfold magnitudeText
    rw [hinteger, hfraction]

lemma magnitudeText_head : ∃ d, x.magnitudeText.head? = some (digitChar d) := by
  obtain ⟨d, rest, hcons⟩ := List.exists_cons_of_ne_nil x.integer_numeral.ne_nil
  refine ⟨d, ?_⟩
  unfold magnitudeText
  rw [hcons]
  rfl

/-- The magnitude is written as `0` when the number is zero. -/
lemma magnitudeText_eq_zero : x.magnitudeText = ['0'] ↔ x.magnitude = 0 := by
  have hzero : IsNumeral [0] := by decide
  let zero : DecimalText := ⟨false, [0], [], hzero, fun d hd => absurd hd List.not_mem_nil⟩
  have htext : zero.magnitudeText = ['0'] := rfl
  have hvalue : zero.magnitude = 0 := by
    simp [magnitude, zero, natOf, fractionValue]
  rw [← htext, magnitudeText_eq_iff, hvalue]

lemma value_neg_iff : x.value < 0 ↔ x.negative = true ∧ x.magnitude ≠ 0 := by
  have hx := magnitude_nonneg (x := x)
  unfold value
  split
  · rename_i hneg
    rw [neg_lt_zero]
    exact ⟨fun h => ⟨hneg, h.ne'⟩, fun h => lt_of_le_of_ne hx h.2.symm⟩
  · rename_i hneg
    exact ⟨fun h => absurd h (not_lt.mpr hx), fun h => absurd h.1 hneg⟩

lemma plainText_of_neg (h : x.value < 0) :
    x.plainText = String.ofList ('-' :: x.magnitudeText) ∧ x.value = -x.magnitude := by
  obtain ⟨hneg, hne⟩ := value_neg_iff.mp h
  unfold plainText value
  rw [if_pos ⟨hneg, mt magnitudeText_eq_zero.mp hne⟩, if_pos hneg]
  exact ⟨rfl, rfl⟩

lemma plainText_of_nonneg (h : 0 ≤ x.value) :
    x.plainText = String.ofList x.magnitudeText ∧ x.value = x.magnitude := by
  have hnot : ¬ (x.negative = true ∧ x.magnitude ≠ 0) := fun hneg =>
    absurd (value_neg_iff.mpr hneg) (not_lt.mpr h)
  have htext : ¬ (x.negative = true ∧ x.magnitudeText ≠ ['0']) := fun hneg =>
    hnot ⟨hneg.1, mt magnitudeText_eq_zero.mpr hneg.2⟩
  unfold plainText
  rw [if_neg htext]
  refine ⟨rfl, ?_⟩
  unfold value
  split
  · rename_i hneg
    have hzero : x.magnitude = 0 := by
      by_contra hne
      exact hnot ⟨hneg, hne⟩
    rw [hzero, neg_zero]
  · rfl

/-- **The plain text** is the same for the same number only. -/
theorem plainText_eq_iff : x.plainText = y.plainText ↔ x.value = y.value := by
  have hsign : ∀ z z' : DecimalText, '-' :: z.magnitudeText ≠ z'.magnitudeText := by
    intro z z' h
    obtain ⟨d, hd⟩ := magnitudeText_head (x := z')
    rw [← h] at hd
    have hminus : isDigit '-' = isDigit (digitChar d) := congrArg isDigit (Option.some.inj hd)
    rw [isDigit_digitChar] at hminus
    exact absurd hminus (by decide)
  rcases lt_or_ge x.value 0 with hx | hx <;> rcases lt_or_ge y.value 0 with hy | hy
  · obtain ⟨htext, hvalue⟩ := plainText_of_neg hx
    obtain ⟨htext', hvalue'⟩ := plainText_of_neg hy
    rw [htext, htext', hvalue, hvalue', String.ofList_inj, List.cons_inj_right,
      magnitudeText_eq_iff, neg_inj]
  · obtain ⟨htext, -⟩ := plainText_of_neg hx
    obtain ⟨htext', -⟩ := plainText_of_nonneg hy
    rw [htext, htext', String.ofList_inj]
    exact ⟨fun h => absurd h (hsign x y), fun h => absurd (h ▸ hx) (not_lt.mpr hy)⟩
  · obtain ⟨htext, -⟩ := plainText_of_nonneg hx
    obtain ⟨htext', -⟩ := plainText_of_neg hy
    rw [htext, htext', String.ofList_inj]
    exact ⟨fun h => absurd h.symm (hsign y x), fun h => absurd (h ▸ hx) (not_le.mpr hy)⟩
  · obtain ⟨htext, hvalue⟩ := plainText_of_nonneg hx
    obtain ⟨htext', hvalue'⟩ := plainText_of_nonneg hy
    rw [htext, htext', hvalue, hvalue', String.ofList_inj, magnitudeText_eq_iff]

/-- The characters of a plain text. -/
lemma mem_plainText {c : Char} (h : c ∈ x.plainText.toList) :
    isDigit c = true ∨ c = '-' ∨ c = '.' := by
  have hmagnitude : ∀ c ∈ x.magnitudeText, isDigit c = true ∨ c = '.' := by
    intro c hc
    rcases List.mem_append.mp hc with hc | hc
    · obtain ⟨d, -, rfl⟩ := List.mem_map.mp hc
      exact Or.inl (isDigit_digitChar d)
    · split at hc
      · cases hc
      · rcases List.mem_cons.mp hc with rfl | hc
        · exact Or.inr rfl
        · obtain ⟨d, -, rfl⟩ := List.mem_map.mp hc
          exact Or.inl (isDigit_digitChar d)
  unfold plainText at h
  rw [String.toList_ofList] at h
  split at h
  · rcases List.mem_cons.mp h with rfl | hc
    · exact Or.inr (Or.inl rfl)
    · exact (hmagnitude c hc).imp_right Or.inr
  · exact (hmagnitude c h).imp_right Or.inr

end DecimalText

/-! ## A fixed number of significant digits -/

/-- The value of the last of `p` significant digits of a number. -/
def lastDigit (p : ℕ) (x : ℚ) : ℚ := 10 ^ (Int.log 10 |x| + 1 - p)

/-- The nearest number with `p` significant digits, away from zero when there are two. -/
def roundSignificant (p : ℕ) (x : ℚ) : ℚ :=
  let magnitude := ⌊|x| / lastDigit p x + 1 / 2⌋ * lastDigit p x
  if x < 0 then -magnitude else magnitude

/-- A number that has no more digits stays as it is. -/
theorem roundSignificant_eq_self {p k : ℕ} {x : ℚ} {n : ℤ} (hx : x * 10 ^ k = n)
    (hn : |n| < 10 ^ p) : roundSignificant p x = x := by
  have hten : (10 : ℚ) ≠ 0 := by norm_num
  by_cases hzero : x = 0
  · have hhalf : (2⁻¹ : ℚ) < 1 := by norm_num
    simp [roundSignificant, hzero, hhalf]
  have hpos : 0 < |x| := abs_pos.mpr hzero
  have habs : |x| = |n| * 10 ^ (-(k : ℤ)) := by
    have hxn : |x| * 10 ^ k = |n| := by
      rw [← abs_of_pos (show (0 : ℚ) < 10 ^ k by positivity), ← abs_mul, hx]
      push_cast
      rfl
    rw [zpow_neg, zpow_natCast, ← hxn]
    field_simp
  have hlog : Int.log 10 |x| < (p : ℤ) - k := by
    rw [← Int.lt_zpow_iff_log_lt (by omega) hpos]
    have hlt : (|n| : ℚ) < 10 ^ p := by exact_mod_cast hn
    rw [habs, sub_eq_add_neg, zpow_add₀ (by norm_num), zpow_natCast]
    push_cast
    have hk : (0 : ℚ) < 10 ^ (-(k : ℤ)) := zpow_pos (by norm_num) _
    exact mul_lt_mul_of_pos_right hlt hk
  -- Counted in units of the last digit, the number is whole.
  have hlast : lastDigit p x = 10 ^ (Int.log 10 |x| + 1 - p) := rfl
  generalize Int.log 10 |x| = l at hlog hlast
  obtain ⟨m, hm⟩ : ∃ m : ℕ, (m : ℤ) = -(k : ℤ) - (l + 1 - p) :=
    ⟨(-(k : ℤ) - (l + 1 - p)).toNat, Int.toNat_of_nonneg (by omega)⟩
  have hwhole : |x| / lastDigit p x = ((|n| * 10 ^ m : ℤ) : ℚ) := by
    rw [hlast, habs, div_eq_mul_inv, ← zpow_neg, mul_assoc, ← zpow_add₀ hten]
    push_cast
    rw [← zpow_natCast, hm]
    congr 2
  have hunit : lastDigit p x ≠ 0 := (zpow_pos (by norm_num) _).ne'
  have hfloor : ⌊|x| / lastDigit p x + 1 / 2⌋ * lastDigit p x = |x| := by
    have hhalf : ⌊((|n| * 10 ^ m : ℤ) : ℚ) + 1 / 2⌋ = |n| * 10 ^ m := by
      rw [Int.floor_intCast_add, show ⌊(1 / 2 : ℚ)⌋ = 0 by norm_num, add_zero]
    rw [hwhole, hhalf, ← hwhole, div_mul_cancel₀ _ hunit]
  unfold roundSignificant
  rw [hfloor]
  split
  · rename_i hneg
    rw [abs_of_neg hneg, neg_neg]
  · rename_i hnonneg
    exact abs_of_nonneg (not_lt.mp hnonneg)

/-- Sum up from the left, rounding each time. -/
def roundedSum (p : ℕ) (l : List ℚ) : ℚ := l.foldl (fun x y => roundSignificant p (x + y)) 0

/-- All sums of the numbers have at most `p` significant digits: in units of the last place, the
numbers are whole and add up to less than `10 ^ p`. -/
def ExactlySummable (p : ℕ) (l : List ℚ) : Prop :=
  ∃ k : ℕ, (∀ x ∈ l, ∃ n : ℤ, x * 10 ^ k = n) ∧ (l.map abs).sum * 10 ^ k < 10 ^ p

lemma foldl_roundSignificant {p k : ℕ} {l : List ℚ} (hl : ∀ x ∈ l, ∃ n : ℤ, x * 10 ^ k = n)
    {a : ℚ} (ha : ∃ n : ℤ, a * 10 ^ k = n) (hsum : (|a| + (l.map abs).sum) * 10 ^ k < 10 ^ p) :
    l.foldl (fun x y => roundSignificant p (x + y)) a = a + l.sum := by
  induction l generalizing a with
  | nil => simp
  | cons x l ih =>
      obtain ⟨n, hn⟩ := ha
      obtain ⟨m, hm⟩ := hl x List.mem_cons_self
      have hwhole : (a + x) * 10 ^ k = ((n + m : ℤ) : ℚ) := by
        push_cast
        rw [add_mul, hn, hm]
      rw [List.map_cons, List.sum_cons] at hsum
      have hrest : 0 ≤ (l.map abs).sum :=
        List.sum_nonneg fun y hy => by
          obtain ⟨z, -, rfl⟩ := List.mem_map.mp hy
          exact abs_nonneg z
      have habs := abs_add_le a x
      have hpow : (0 : ℚ) < 10 ^ k := by positivity
      have hsmall : (|n + m| : ℤ) < 10 ^ p := by
        have hle : |a + x| * 10 ^ k < 10 ^ p :=
          lt_of_le_of_lt (mul_le_mul_of_nonneg_right (by linarith) hpow.le) hsum
        rw [← abs_of_pos hpow, ← abs_mul, hwhole] at hle
        exact_mod_cast hle
      rw [List.foldl_cons, roundSignificant_eq_self hwhole hsmall,
        ih (fun y hy => hl y (List.mem_cons_of_mem _ hy)) ⟨n + m, hwhole⟩
          (lt_of_le_of_lt (mul_le_mul_of_nonneg_right (by linarith) hpow.le) hsum),
        List.sum_cons]
      ring

/-- Numbers that can be summed exactly are. -/
theorem ExactlySummable.roundedSum_eq {p : ℕ} {l : List ℚ} (h : ExactlySummable p l) :
    roundedSum p l = l.sum := by
  obtain ⟨k, hl, hsum⟩ := h
  have hfold := foldl_roundSignificant hl (a := 0) ⟨0, by simp⟩ (by simpa using hsum)
  rwa [zero_add] at hfold

/-- Some of the numbers, in any order, can be summed too. -/
lemma ExactlySummable.subperm {p : ℕ} {l l' : List ℚ} (h : ExactlySummable p l)
    (hsub : l'.Subperm l) : ExactlySummable p l' := by
  obtain ⟨k, hl, hsum⟩ := h
  refine ⟨k, fun x hx => hl x (hsub.subset hx), lt_of_le_of_lt ?_ hsum⟩
  refine mul_le_mul_of_nonneg_right ?_ (by positivity)
  obtain ⟨m, hperm, hsublist⟩ := hsub
  rw [← (hperm.map abs).sum_eq]
  exact (hsublist.map abs).sum_le_sum fun x hx => by
    obtain ⟨z, -, rfl⟩ := List.mem_map.mp hx
    exact abs_nonneg z

end VendorDashboard.Decimal

import VendorDashboard.Framework.StableJson

/-!
# Fixed-point numbers as text

`fixedText k n` writes `n / 10 ^ k` with at most `k` decimals and no zeros at the end, and
`readFixed k` reads numbers without a sign that have at most `k` decimals.  What is written is read
back (`readFixed_fixedText`).
-/

namespace VendorDashboard.Decimal

open StableJson

/-! ## Writing -/

/-- The last `k` digits of a number. -/
def lastDigits : ℕ → ℕ → List ℕ
  | 0, _ => []
  | k + 1, n => lastDigits k (n / 10) ++ [n % 10]

lemma length_lastDigits (k n : ℕ) : (lastDigits k n).length = k := by
  induction k generalizing n with
  | zero => rfl
  | succ k ih =>
      unfold lastDigits
      rw [List.length_append, ih]
      rfl

lemma lastDigits_lt (k n : ℕ) : ∀ d ∈ lastDigits k n, d < 10 := by
  induction k generalizing n with
  | zero => simp [lastDigits]
  | succ k ih =>
      intro d hd
      rcases List.mem_append.mp hd with hd | hd
      · exact ih _ d hd
      · rw [List.mem_singleton.mp hd]
        exact Nat.mod_lt n (by omega)

lemma natOf_lastDigits (k n : ℕ) : natOf (lastDigits k n) = n % 10 ^ k := by
  induction k generalizing n with
  | zero =>
      have hone : n % 10 ^ 0 = 0 := by omega
      rw [hone]
      rfl
  | succ k ih =>
      unfold lastDigits
      rw [natOf_concat, ih, pow_succ, Nat.mul_comm (10 ^ k) 10, Nat.mod_mul]
      omega

def fixedText (k n : ℕ) : List Char :=
  let fraction := trimZeros (lastDigits k n)
  (decimalDigits (n / 10 ^ k)).map digitChar ++
    if fraction = [] then [] else '.' :: fraction.map digitChar

/-! ## Reading -/

/-- `/^\d+(?:\.\d{1,k})?$/` -/
def readFixed (k : ℕ) (s : List Char) : Option ℚ :=
  (digitsOf (s.takeWhile (· ≠ '.'))).bind fun integer =>
    (scanFractionPart (s.dropWhile (· ≠ '.'))).bind fun fraction =>
      if integer = [] ∨ k < fraction.length then none
      else some (natOf integer + fractionValue fraction)

lemma digitsOf_map_digitChar {l : List ℕ} (hl : ∀ d ∈ l, d < 10) :
    digitsOf (l.map digitChar) = some l := by
  unfold digitsOf
  induction l with
  | nil => rfl
  | cons d l ih =>
      have hd : d % 10 = d := Nat.mod_eq_of_lt (hl d List.mem_cons_self)
      rw [List.map_cons, List.mapM_cons, digitValue_digitChar, hd,
        ih fun e he => hl e (List.mem_cons_of_mem _ he)]
      rfl

lemma digitChar_ne_point (n : ℕ) : digitChar n ≠ '.' := by
  intro h
  have hdigit := isDigit_digitChar n
  rw [h] at hdigit
  exact absurd hdigit (by decide)

/-- The digits before the point end at the point. -/
lemma takeWhile_digits {l : List ℕ} {s : List Char} (hs : ∀ c ∈ s.head?, c = '.') :
    (l.map digitChar ++ s).takeWhile (· ≠ '.') = l.map digitChar ∧
      (l.map digitChar ++ s).dropWhile (· ≠ '.') = s := by
  have hall : ∀ c ∈ l.map digitChar, decide (c ≠ '.') = true := by
    intro c hc
    obtain ⟨d, -, rfl⟩ := List.mem_map.mp hc
    exact decide_eq_true (digitChar_ne_point d)
  rw [List.takeWhile_append_of_pos hall, List.dropWhile_append_of_pos hall]
  cases s with
  | nil => simp
  | cons c s =>
      have hc := hs c rfl
      simp [hc]

/-- What is written is read back. -/
theorem readFixed_fixedText (k n : ℕ) : readFixed k (fixedText k n) = some (n / 10 ^ k : ℚ) := by
  have hfraction : ∀ d ∈ trimZeros (lastDigits k n), d < 10 := fun d hd =>
    lastDigits_lt k n d (mem_of_mem_trimZeros hd)
  have hlength : (trimZeros (lastDigits k n)).length ≤ k := by
    have h := (List.rdropWhile_prefix (fun d : ℕ => decide (d = 0)) (lastDigits k n)).length_le
    rwa [length_lastDigits] at h
  have hvalue : (natOf (decimalDigits (n / 10 ^ k)) : ℚ) + fractionValue (trimZeros (lastDigits k n))
      = n / 10 ^ k := by
    rw [fractionValue_trimZeros, fractionValue, natOf_decimalDigits, natOf_lastDigits,
      length_lastDigits]
    have hsplit : (n : ℚ) = 10 ^ k * (n / 10 ^ k : ℕ) + (n % 10 ^ k : ℕ) := by
      exact_mod_cast (Nat.div_add_mod n (10 ^ k)).symm
    have hpos : (10 : ℚ) ^ k ≠ 0 := by positivity
    field_simp
    rw [hsplit, mul_comm]
  have hhead : ∀ c ∈ (if trimZeros (lastDigits k n) = [] then []
      else '.' :: (trimZeros (lastDigits k n)).map digitChar).head?, c = '.' := by
    intro c hc
    split at hc
    · cases hc
    · exact (Option.some.inj hc).symm
  obtain ⟨htake, hdrop⟩ := @takeWhile_digits (decimalDigits (n / 10 ^ k)) _ hhead
  have hscan : scanFractionPart (if trimZeros (lastDigits k n) = [] then []
      else '.' :: (trimZeros (lastDigits k n)).map digitChar) =
        some (trimZeros (lastDigits k n)) := by
    by_cases hnil : trimZeros (lastDigits k n) = []
    · rw [if_pos hnil, hnil]
      rfl
    · rw [if_neg hnil]
      show (if _ = [] then none else digitsOf _) = _
      rw [if_neg (by simpa using hnil), digitsOf_map_digitChar hfraction]
  unfold readFixed fixedText
  simp only
  rw [htake, hdrop, digitsOf_map_digitChar (decimalDigits_lt _), Option.bind_some, hscan,
    Option.bind_some, if_neg, hvalue]
  rintro (hnil | hlong)
  · exact decimalDigits_ne_nil _ hnil
  · omega

end VendorDashboard.Decimal

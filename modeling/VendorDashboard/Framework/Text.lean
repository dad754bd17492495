import Mathlib.Data.List.DropRight
import Mathlib.Tactic.IntervalCases

/-!
# Text

The string operations of the source language that the model needs, on code points: trimming,
changing case and substring search.

A text whose case is changed is, in most places, compared with ASCII words.  `toLowerCase` and
`toUpperCase` are exact for this: an ASCII letter comes out where the source has one, and the letters
of the other alphabets, which no such comparison tells apart, stay as they are.  Where they matter,
the function that changes the case is a parameter.
-/

namespace VendorDashboard.Text

/-- White space and line terminators, the characters that `trim` removes. -/
def isSpace (c : Char) : Bool :=
  let n := c.toNat
  (9 ≤ n && n ≤ 13) || n == 32 || n == 0xA0 || n == 0x1680 || (0x2000 ≤ n && n ≤ 0x200A) ||
    n == 0x2028 || n == 0x2029 || n == 0x202F || n == 0x205F || n == 0x3000 || n == 0xFEFF

/-- Remove leading and trailing white space. -/
def trim (s : String) : String :=
  String.ofList ((s.toList.dropWhile isSpace).reverse.dropWhile isSpace).reverse

/-- What was trimmed stays as it is. -/
@[simp] lemma trim_trim (s : String) : trim (trim s) = trim s := by
  have hlist : ∀ l : List Char, ((l.dropWhile isSpace).rdropWhile isSpace).dropWhile isSpace =
      (l.dropWhile isSpace).rdropWhile isSpace := by
    intro l
    have hprefix := List.rdropWhile_prefix isSpace (l.dropWhile isSpace)
    rw [List.dropWhile_eq_self_iff]
    intro hpos
    have hhead := List.IsPrefix.getElem hprefix hpos
    have hl : 0 < (l.dropWhile isSpace).length := hpos.trans_le hprefix.length_le
    have hnot := List.dropWhile_get_zero_not isSpace l hl
    simpa [hhead] using hnot
  have htrim : ∀ s, trim s =
      String.ofList ((s.toList.dropWhile isSpace).rdropWhile isSpace) := fun _ => rfl
  rw [htrim, htrim, String.toList_ofList, hlist, List.rdropWhile_idempotent]

/-- A text without white space stays as it is. -/
lemma trim_eq_self {s : String} (h : ∀ c ∈ s.toList, isSpace c = false) : trim s = s := by
  have hdrop : ∀ l : List Char, (∀ c ∈ l, isSpace c = false) → l.dropWhile isSpace = l := by
    intro l hl
    cases l with
    | nil => rfl
    | cons c l => exact List.dropWhile_cons_of_neg (by simp [hl c List.mem_cons_self])
  unfold trim
  rw [hdrop _ h, hdrop _ fun c hc => h c (List.mem_reverse.mp hc), List.reverse_reverse,
    String.ofList_toList]

/-- The lower case of a character, as far as it has an ASCII letter. -/
def lowerChar (c : Char) : List Char :=
  if c.toNat < 128 then [c.toLower]
  else if c.toNat = 0x130 then ['i', Char.ofNat 0x307]
  else if c.toNat = 0x212A then ['k']
  else [c]

def toLowerCase (s : String) : String := String.ofList (s.toList.flatMap lowerChar)

/-- The characters beyond ASCII whose upper case has an ASCII letter. -/
def upperSpecials : List (ℕ × String) :=
  [(0xDF, "SS"), (0x131, "I"), (0x149, "ʼN"), (0x17F, "S"), (0x1F0, "J̌"), (0x1E96, "H̱"),
    (0x1E97, "T̈"), (0x1E98, "W̊"), (0x1E99, "Y̊"), (0x1E9A, "Aʾ"), (0xFB00, "FF"), (0xFB01, "FI"),
    (0xFB02, "FL"), (0xFB03, "FFI"), (0xFB04, "FFL"), (0xFB05, "ST"), (0xFB06, "ST")]

/-- The upper case of a character, as far as it has an ASCII letter. -/
def upperChar (c : Char) : List Char :=
  if c.toNat < 128 then [c.toUpper]
  else ((upperSpecials.lookup c.toNat).map String.toList).getD [c]

def toUpperCase (s : String) : String := String.ofList (s.toList.flatMap upperChar)

/-- Whether `pat` occurs in `s`. -/
def includes (s pat : String) : Bool := s.toList.tails.any fun t => pat.toList.isPrefixOf t

def startsWith (s pat : String) : Bool := pat.toList.isPrefixOf s.toList

/-- `s.split('/').at(-1)`. -/
def lastSegment (s : String) : String :=
  String.ofList (s.toList.reverse.takeWhile (· ≠ '/')).reverse

/-- The number of UTF-16 code units. -/
def utf16Length (s : String) : ℕ :=
  (s.toList.map fun c => if c.toNat > 0xFFFF then 2 else 1).sum

/-- The UTF-16 code units, by which `sort` compares strings. -/
def codeUnits (s : String) : List ℕ :=
  s.toList.flatMap fun c =>
    if c.toNat > 0xFFFF then
      [0xD800 + (c.toNat - 0x10000) / 0x400, 0xDC00 + (c.toNat - 0x10000) % 0x400]
    else [c.toNat]

/-- `slice(0, n)`, which counts UTF-16 code units. -/
def slice (n : ℕ) (s : String) : String := String.ofList (go n s.toList)
where
  go : ℕ → List Char → List Char
    | _, [] => []
    | n, c :: cs =>
        let width := if c.toNat > 0xFFFF then 2 else 1
        if width ≤ n then c :: go (n - width) cs else []

/-- `/^[1-9]\d*$/`. -/
def isPositiveDecimal (s : String) : Bool :=
  match s.toList with
  | [] => false
  | c :: cs => decide ('1' ≤ c) && decide (c ≤ '9') && cs.all fun d => decide ('0' ≤ d ∧ d ≤ '9')

lemma isSpace_of_digit {c : Char} (h : '0' ≤ c ∧ c ≤ '9') : isSpace c = false := by
  have hlow : 48 ≤ c.toNat := h.1
  have hhigh : c.toNat ≤ 57 := h.2
  unfold isSpace
  interval_cases c.toNat <;> decide

/-- A positive decimal numeral has no white space. -/
lemma isSpace_of_isPositiveDecimal {s : String} (h : isPositiveDecimal s = true) :
    ∀ c ∈ s.toList, isSpace c = false := by
  unfold isPositiveDecimal at h
  split at h
  · cases h
  · rename_i c cs hlist
    simp only [Bool.and_eq_true, decide_eq_true_eq, List.all_eq_true] at h
    obtain ⟨⟨hone, hnine⟩, hrest⟩ := h
    intro d hd
    rw [hlist, List.mem_cons] at hd
    rcases hd with rfl | hd
    · have hone' : 49 ≤ d.toNat := hone
      have hzero : 48 ≤ d.toNat := by omega
      exact isSpace_of_digit ⟨hzero, hnine⟩
    · exact isSpace_of_digit (hrest d hd)

end VendorDashboard.Text

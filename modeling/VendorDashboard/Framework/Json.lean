import VendorDashboard.Framework.Text

/-!
# JSON values

What a service answers is a JSON value of any shape.  It is read by field, and a field counts as a
text when it is a string that is not blank, which is trimmed, or a number.
-/

namespace VendorDashboard

open Text

/-- A text without white space around it, and not empty. -/
def TrimmedText : Type := { t : String // trim t = t ∧ t ≠ "" }

inductive Json
  | null
  | bool (b : Bool)
  /-- A number by the text it is written as; `none` when it is not finite. -/
  | number (text : Option TrimmedText)
  | string (s : String)
  | array (items : List Json)
  | object (fields : List (String × Json))

namespace Json

def isRecord : Json → Bool
  | .object _ => true
  | _ => false

def isNonemptyRecord : Json → Bool
  | .object fields => !fields.isEmpty
  | _ => false

/-- The field of a record; of a repeated name the last one counts. -/
def field? (key : String) : Json → Option Json
  | .object fields => (fields.reverse.find? fun f => decide (f.1 = key)).map Prod.snd
  | _ => none

/-- The field is a record. -/
def hasRecord (value : Json) (key : String) : Bool := (value.field? key).any isRecord

mutual

/-- `String(value)`. -/
def toText : Json → String
  | .null => "null"
  | .bool b => toString b
  | .number text => (text.map (·.val)).getD "NaN"
  | .string s => s
  | .array items => ",".intercalate (itemTexts items)
  | .object _ => "[object Object]"

/-- The texts of the items of an array; a null counts as empty. -/
def itemTexts : List Json → List String
  | [] => []
  | .null :: items => "" :: itemTexts items
  | item :: items => item.toText :: itemTexts items

end

def readText (s : String) : Option String := if trim s = "" then none else some (trim s)

def readString : Json → Option String
  | .string s => readText s
  | .number text => text.map (·.val)
  | _ => none

/-- The first of the fields that is a text. -/
def readRecordString (value : Json) (keys : List String) : Option String :=
  keys.findSome? fun key => (value.field? key).bind readString

lemma readText_of_readText {s t : String} (h : readText s = some t) : readText t = some t := by
  unfold readText at h ⊢
  split at h
  · cases h
  · rename_i hne
    obtain rfl := Option.some.inj h
    rw [trim_trim, if_neg hne]

/-- What was read as a text is read as itself again. -/
lemma readText_of_readString {value : Json} {t : String} (h : value.readString = some t) :
    readText t = some t := by
  cases value with
  | string s => exact readText_of_readText h
  | number text =>
      obtain ⟨t', -, rfl⟩ := Option.map_eq_some_iff.mp h
      obtain ⟨htrim, hne⟩ := t'.property
      rw [readText, htrim, if_neg hne]
  | null => cases h
  | bool b => cases h
  | array items => cases h
  | object fields => cases h

lemma readText_of_readRecordString {value : Json} {keys : List String} {t : String}
    (h : value.readRecordString keys = some t) : readText t = some t := by
  obtain ⟨key, -, hkey⟩ := List.exists_of_findSome?_eq_some h
  obtain ⟨v, -, hv⟩ := Option.bind_eq_some_iff.mp hkey
  exact readText_of_readString hv

end Json

end VendorDashboard

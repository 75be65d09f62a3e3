/-
# Reading plain data out of values

A field that wants a whole number also takes booleans, numbers without a
fraction and numerals; one that wants a boolean also takes the numbers
one and zero and the usual words. A number outside the range of 64-bit words
is not even looked at as a boolean, nor is one that may have a fraction as a
whole number. Texts, lists and records are taken as they
are only.

Key definitions: `Value.readInt`, `Value.readBool`, `Value.readText`,
`Value.readList`, `Value.readRecord`.
-/
import Folio.Checked
import Folio.Value
import Folio.Text.Numeral

namespace Folio
namespace Value

open Checked

/-- The complaint about a text that is no number. -/
def complaintOf : Text.Numeral.Fault → Complaint
  | .unreadable => .unreadableInteger
  | .tooLong => .tooLongInteger

/-- Is a number a signed word of 64 bits? -/
def isWord64 (n : Int) : Bool :=
  decide (-0x8000000000000000 ≤ n ∧ n < 0x8000000000000000)

/-- Is a number a word whose opposite is one too? -/
def isBalanced (n : Int) : Bool :=
  isWord64 n && isWord64 (-n)

/-- A whole number. -/
def readInt : Value → Checked Int
  | int n => .ok n
  | bool b => .ok (if b then 1 else 0)
  | real x =>
    match x.truncated? with
    | none => refuse .notFinite
    | some n =>
      if !x.isWhole then refuse .fractional
      else if isBalanced n then .ok n
      else refuse .tooLongInteger
  | text s =>
    match Text.Numeral.read s with
    | .ok n => .ok n
    | .error fault => refuse (complaintOf fault)
  | _ => refuse .notInteger

/-- A whole number that is not below a bound. -/
def readAtLeast (bound : Int) (v : Value) : Checked Int :=
  match v.readInt with
  | .ok n => if bound ≤ n then .ok n else refuse (.below bound)
  | .error issues => .error issues

/-- The words for true. -/
def yesWords : List String := ["1", "true", "t", "yes", "y", "on"]

/-- The words for false. -/
def noWords : List String := ["0", "false", "f", "no", "n", "off"]

/-- The boolean a whole number stands for. -/
def boolOfInt (n : Int) : Checked Bool :=
  if n = 1 then .ok true
  else if n = 0 then .ok false
  else if isWord64 n then refuse .unreadableBoolean
  else refuse .notBoolean

/-- A boolean. -/
def readBool : Value → Checked Bool
  | bool b => .ok b
  | int n => boolOfInt n
  | real x =>
    match x.truncated? with
    | none => refuse .notBoolean
    | some n => if x.isWhole && isBalanced n then boolOfInt n else refuse .notBoolean
  | text s =>
    let word := s.map Char.toLower
    if word ∈ yesWords then .ok true
    else if word ∈ noWords then .ok false
    else refuse .unreadableBoolean
  | _ => refuse .notBoolean

/-- A text. -/
def readText : Value → Checked String
  | text s => .ok s
  | _ => refuse .notText

/-- A list whose items pass a check. -/
def readList {α : Type} (item : Value → Checked α) : Value → Checked (List α)
  | list items => each item items
  | _ => refuse .notList

/-- The fields of a record, for the model of that name. -/
def readRecord (model : String) : Value → Checked (List (String × Value))
  | record fields => .ok fields
  | _ => refuse (.notModel model)

/-- A field of a record: its default when it is left out, else its value
checked. -/
def readField {α : Type} (fields : List (String × Value)) (name : String) (default : α)
    (read : Value → Checked α) : Checked α :=
  match fields.lookup name with
  | none => .ok default
  | some v => (read v).under (.field name)

end Value
end Folio

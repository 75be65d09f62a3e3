/-
# Values of any kind

What reaches a pager from outside, its options, settings, request data and the
rows themselves, is a value of no fixed kind. A record keeps its fields in the
order in which they were written.

A whole number is written only if it has at most 4300 digits. A value is
written into a page dump only if it is nested at most 255 levels deep, where
the innermost value counts as one.

Key definitions: `Value`, `Value.isSet`, `Value.field?`, `Value.spread`,
`Value.finite`, `Value.isWritable`, `Value.height`, `Value.isShallow`.
-/
import Folio.Binary64

namespace Folio

/-- A value of any kind. -/
inductive Value where
  | null
  | bool (b : Bool)
  | int (n : Int)
  | real (x : Binary64)
  | text (s : String)
  | list (items : List Value)
  | record (fields : List (String × Value))
  deriving Repr, Inhabited

namespace Value

/-- Does the value say anything? Null, false, zero and whatever is empty do
not. -/
def isSet : Value → Bool
  | null => false
  | bool b => b
  | int n => n != 0
  | real x => !x.isZero
  | text s => s != ""
  | list items => !items.isEmpty
  | record fields => !fields.isEmpty

/-- Is the value null? -/
def isNull : Value → Bool
  | null => true
  | _ => false

/-- Is the value the number zero? False counts as zero. -/
def isZero : Value → Bool
  | bool b => !b
  | int n => n == 0
  | real x => x.isZero
  | _ => false

/-- The value of a field of a record. -/
def field? (name : String) : Value → Option Value
  | record fields => fields.lookup name
  | _ => none

/-- The members of a value that has any: the items of a list, the characters
of a text, the field names of a record. -/
def spread : Value → Option (List Value)
  | list items => some items
  | text s => some (s.toList.map fun c => text (String.singleton c))
  | record fields => some (fields.map fun f => text f.1)
  | _ => none

mutual

/-- The value with null in place of every number that is not finite. -/
def finite : Value → Value
  | real x => if x.isFinite then real x else null
  | list items => list (finiteItems items)
  | record fields => record (finiteFields fields)
  | v => v

/-- The items of a list with null in place of what is not finite. -/
def finiteItems : List Value → List Value
  | [] => []
  | v :: rest => finite v :: finiteItems rest

/-- The fields of a record with null in place of what is not finite. -/
def finiteFields : List (String × Value) → List (String × Value)
  | [] => []
  | (name, v) :: rest => (name, finite v) :: finiteFields rest

end

/-! ### How long and how deep a value may be -/

/-- The most digits of a whole number that is written. -/
def mostDigits : Nat := 4300

/-- Is a whole number short enough to be written? -/
def isShort (n : Int) : Bool :=
  n.natAbs < Nat.pow 10 mostDigits

mutual

/-- Is every whole number in the value short enough to be written? -/
def isWritable : Value → Bool
  | int n => isShort n
  | list items => areWritable items
  | record fields => fieldsAreWritable fields
  | _ => true

/-- Are all of several values writable? -/
def areWritable : List Value → Bool
  | [] => true
  | v :: rest => isWritable v && areWritable rest

/-- Are all fields writable? -/
def fieldsAreWritable : List (String × Value) → Bool
  | [] => true
  | (_, v) :: rest => isWritable v && fieldsAreWritable rest

end

mutual

/-- How many levels a value has. -/
def height : Value → Nat
  | list items => heightOfItems items + 1
  | record fields => heightOfFields fields + 1
  | _ => 1

/-- How many levels the highest of several values has. -/
def heightOfItems : List Value → Nat
  | [] => 0
  | v :: rest => max (height v) (heightOfItems rest)

/-- How many levels the highest field has. -/
def heightOfFields : List (String × Value) → Nat
  | [] => 0
  | (_, v) :: rest => max (height v) (heightOfFields rest)

end

/-- The most levels of a value in a page dump. -/
def mostLevels : Nat := 255

/-- May the value stand in a page dump? -/
def isShallow (v : Value) : Bool :=
  v.height ≤ mostLevels

end Value
end Folio

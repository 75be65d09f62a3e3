/-
# Parts of a value and names

A list or a text has parts at its positions, and an index below zero counts
from the end. A record has parts under the names of its fields. Anything that
is neither a list nor a record will do for a name: null, a text, or a number,
and two numbers of the same size are the same name.

Key definitions: `Value.part`, `LookupFault`, `Name`, `Value.name?`.
-/
import Folio.Number
import Folio.Value.Display

namespace Folio

/-- Why a value has no part of that kind. -/
inductive LookupFault where
  /-- A record has no such field. -/
  | missing (name : String)
  /-- A list, or a text, has no such position. -/
  | outside (inText : Bool)
  /-- A position that no list can have. -/
  | uncounted
  /-- What is asked, or what it is asked for, is of the wrong kind. -/
  | unfit
  deriving DecidableEq, Repr

/-- What is said about a fault. -/
def LookupFault.message? : LookupFault → Option String
  | missing name => some name
  | outside true => some "string index out of range"
  | outside false => some "list index out of range"
  | uncounted => some "cannot fit 'int' into an index-sized integer"
  | unfit => none

/-- The position that an index counts, from the end when it is negative. -/
def position? (index : Int) (length : Nat) : Option Nat :=
  if 0 ≤ index then (if index < length then some index.toNat else none)
  else if 0 ≤ index + length then some (index + length).toNat else none

/-- The member at an index, which has to be a whole number of 64 bits. -/
def memberAt {α : Type} (inText : Bool) (members : List α) (index : Value) :
    Except LookupFault α :=
  match index.number?.bind Number.whole? with
  | none => .error .unfit
  | some n =>
    if n < -0x8000000000000000 ∨ 0x8000000000000000 ≤ n then .error .uncounted
    else
      match (position? n members.length).bind fun i => members[i]? with
      | some a => .ok a
      | none => .error (.outside inText)

namespace Value

/-- The value of a field of a record, given by a value that can be a name. -/
def fieldAt (fields : List (String × Value)) : Value → Except LookupFault Value
  | text name =>
    match fields.lookup name with
    | some v => .ok v
    | none => .error (.missing name)
  | list _ => .error .unfit
  | record _ => .error .unfit
  | v => .error (.missing v.plain)

/-- The part of a value that an index or a name stands for. -/
def part (v index : Value) : Except LookupFault Value :=
  match v with
  | list items => memberAt false items index
  | text s => memberAt true (s.toList.map fun c => text (String.singleton c)) index
  | record fields => fieldAt fields index
  | _ => .error .unfit

end Value

/-! ### Names -/

/-- Something by which things are told apart. -/
inductive Name where
  | null
  /-- A number, told by the place where it stands. -/
  | number (place : Option (Int × Int))
  | text (s : String)
  deriving DecidableEq, Repr

/-- The name that a value is. Lists and records are none. -/
def Value.name? : Value → Option Name
  | null => some .null
  | text s => some (.text s)
  | v => v.number?.map fun n => .number n.place?

end Folio

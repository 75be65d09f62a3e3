/-
# Sort keys and order terms

A term of an ORDER BY list names what to sort by, a value of any kind, and
perhaps a direction. It is written as the value in running text, a space and
the direction, ascending when none is given. A term whose value says nothing is
written as the empty text.

A sort key names a column and perhaps a direction. Its short form, a spec, is
the column with a dash in front for descending order. A spec is taken as long
as it holds an ASCII letter or digit anywhere, so `name desc` is a column of
that name; any other spec is ignored. In an ORDER BY list a key is the term of
its column.

Key definitions: `Direction`, `OrderTerm`, `OrderTerm.clause`, `OrderTerm.dump`,
`SortKey`, `SortKey.ofSpec?`, `SortKey.ofSpec`, `SortKey.spec`, `SortKey.term`,
`SortKey.clause`, `SortKey.read`, `SortKey.dump`.
-/
import Folio.Value.Display
import Folio.Value.Reading

namespace Folio

/-! ### Terms -/

/-- The direction of a sort. -/
inductive Direction where
  | ascending
  | descending
  deriving DecidableEq, Repr

/-- The keyword of a direction. -/
def Direction.keyword : Direction → String
  | .ascending => "ASC"
  | .descending => "DESC"

/-- The direction with a keyword. -/
def Direction.ofKeyword? (s : String) : Option Direction :=
  if s = "ASC" then some .ascending else if s = "DESC" then some .descending else none

/-- What to sort by. -/
structure OrderTerm where
  column : Value
  direction : Option Direction
  deriving Repr

namespace OrderTerm

/-- The clause of a term. -/
def clause (t : OrderTerm) : String :=
  if t.column.isSet then t.column.plain ++ " " ++ (t.direction.getD .ascending).keyword else ""

/-- The term as a record. -/
def dump (t : OrderTerm) : Value :=
  .record [("column", t.column),
    ("order", match t.direction with
      | some d => .text d.keyword
      | none => .null)]

end OrderTerm

/-! ### Keys -/

/-- A column to sort by. -/
structure SortKey where
  column : String := ""
  direction : Option Direction := none
  deriving DecidableEq, Repr

namespace SortKey

/-! ### Specs -/

/-- The ASCII letters and digits, of which a spec has at least one. -/
def isSpecChar (c : Char) : Bool :=
  c.isAlphanum

/-- Does a spec name a column? -/
def isSpec (spec : String) : Bool :=
  spec.toList.any isSpecChar

/-- The key a spec stands for, `none` if it names no column. -/
def ofSpec? (spec : String) : Option SortKey :=
  if isSpec spec then
    match spec.toList with
    | '-' :: column => some ⟨String.ofList column, some .descending⟩
    | _ => some ⟨spec, some .ascending⟩
  else none

/-- The key a spec stands for, and whether it names a column. One that names none
stands for the empty key. -/
def ofSpec (spec : String) : SortKey × Bool :=
  match ofSpec? spec with
  | some key => (key, true)
  | none => ({}, false)

/-- The short form of a key. -/
def spec (k : SortKey) : String :=
  if k.direction = some .descending then "-" ++ k.column else k.column

/-! ### ORDER BY clauses -/

/-- The term of a key. -/
def term (k : SortKey) : OrderTerm :=
  ⟨.text k.column, k.direction⟩

/-- The clause of a key. -/
def clause (k : SortKey) : String :=
  k.term.clause

/-! ### Outside form -/

/-- The name of the model in complaints. -/
def model : String := "Sort"

/-- A direction or null. -/
def readDirection : Value → Checked (Option Direction)
  | .null => .ok none
  | .text s =>
    match Direction.ofKeyword? s with
    | some d => .ok (some d)
    | none => Checked.refuse .notDirection
  | _ => Checked.refuse .notDirection

/-- A key from the fields of a record. -/
def readFields (fields : List (String × Value)) : Checked SortKey :=
  ((Value.readField fields "column" "" Value.readText).zip
    (Value.readField fields "order" none readDirection)).map fun r => ⟨r.1, r.2⟩

/-- A key from a value of any kind. -/
def read (v : Value) : Checked SortKey :=
  match v.readRecord model with
  | .ok fields => readFields fields
  | .error issues => .error issues

/-- The key as a record. -/
def dump (k : SortKey) : Value :=
  k.term.dump

end SortKey
end Folio

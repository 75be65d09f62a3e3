/-
# Statements

A statement asks a table for rows. It is immutable: a limit or an offset put on
it replaces an earlier one in the new statement, order clauses are appended.
A SELECT statement takes finite numbers only, and those without their
fractions. It may be made with columns and a table that are no texts, but then
it cannot be written. Besides SELECT statements there are recordings, which keep
the calls made on them in order.

Key definitions: `Select`, `Statement`, `Select.ofValues`, `Select.bounded`,
`Statement.limit`, `Statement.offset`, `Statement.orderBy`, `Statement.shown`.
Key theorems: `Statement.limit_int`, `Statement.offset_int`.
-/
import Folio.Failure
import Folio.Text.Numeral
import Folio.Value

namespace Folio

/-- Why a SELECT statement cannot be written. -/
inductive Flaw where
  /-- A column is no text. -/
  | column
  /-- The table is no text, and perhaps not even of a kind that has no parts. -/
  | table (compound : Bool)
  deriving DecidableEq, Repr

/-- A SELECT statement. -/
structure Select where
  columns : List String := ["*"]
  table : String := "t"
  filter : Option String := none
  clauses : List String := []
  limit : Option Int := none
  offset : Option Int := none
  flaw : Option Flaw := none
  deriving DecidableEq, Repr

/-- A call on a recording. -/
inductive RecordedCall where
  | limit (n : Number)
  | offset (n : Number)
  | orderBy (clauses : List String)
  deriving DecidableEq, Repr

/-- Something that takes a limit, an offset and order clauses. -/
inductive Statement where
  | select (s : Select)
  | recording (calls : List RecordedCall)
  deriving DecidableEq, Repr

/-! ### Columns and tables of any kind -/

/-- The text of a column. A column that is null has no name. -/
def Value.columnText? : Value → Option String
  | .text s => some s
  | .null => some "<name unknown>"
  | _ => none

/-- The text of a table. -/
def Value.tableText : Value → Except Flaw String
  | .text s => .ok s
  | .list _ => .error (.table true)
  | .record _ => .error (.table true)
  | _ => .error (.table false)

/-- A statement with columns and a table of any kind. -/
def Select.ofValues (columns : List Value) (table : Value) : Select :=
  match columns.mapM Value.columnText?, table.tableText with
  | none, _ => { flaw := some .column }
  | some _, .error flaw => { flaw := some flaw }
  | some columns, .ok table => { columns := columns, table := table }

/-- The failure of an attempt to write a statement with a flaw. -/
def Flaw.failure : Flaw → Failure
  | .column => .badCall
  | .table true => .badCall
  | .table false => .wrongKind

/-! ### Whole numbers -/

/-- A number without its fraction. -/
def Number.bounded (n : Number) : Except Failure Int :=
  match n.truncated? with
  | some k => .ok k
  | none => .error (if n = .real .nan then .notNumber else .boundless)

/-- A value as a whole number, a text as the numeral that it is. -/
def Value.bounded (v : Value) : Except Failure Int :=
  match v with
  | .text s =>
    match Text.Integer.read s with
    | .ok n => .ok n
    | .error .unreadable => .error (.notNumeral s)
    | .error (.tooLong digits) => .error (.numeralTooLong digits)
  | _ =>
    match v.number? with
    | some n => n.bounded
    | none => .error .badCall

/-- A value as a whole number, null as none. -/
def Value.bound? : Value → Except Failure (Option Int)
  | .null => .ok none
  | v => v.bounded.map some

/-- The statement with a limit and an offset, each perhaps null. -/
def Select.bounded (s : Select) (limit offset : Value) : Except Failure Select :=
  match limit.bound? with
  | .error failure => .error failure
  | .ok n => offset.bound?.map fun k => { s with limit := n, offset := k }

namespace Statement

/-- The statement limited to so many rows. -/
def limit (n : Number) : Statement → Except Failure Statement
  | select s => n.bounded.map fun k => select { s with limit := some k }
  | recording calls => .ok (recording (calls ++ [.limit n]))

/-- The statement that skips so many rows. -/
def offset (n : Number) : Statement → Except Failure Statement
  | select s => n.bounded.map fun k => select { s with offset := some k }
  | recording calls => .ok (recording (calls ++ [.offset n]))

/-- The statement with further order clauses. -/
def orderBy (clauses : List String) : Statement → Statement
  | select s => select { s with clauses := s.clauses ++ clauses }
  | recording calls => recording (calls ++ [.orderBy clauses])

/-- Are the numbers of a SELECT statement short enough to be written? -/
def isWritable : Statement → Bool
  | select s => s.limit.all Value.isShort && s.offset.all Value.isShort
  | recording _ => true

/-- Why a statement cannot be written, if it has a flaw. -/
def flaw? : Statement → Option Flaw
  | select s => s.flaw
  | recording _ => none

/-- The statement, if it can be written. -/
def shown (s : Statement) : Except Failure Statement :=
  match s.flaw? with
  | some flaw => .error flaw.failure
  | none => if s.isWritable then .ok s else .error .tooManyDigits

@[simp] theorem limit_int (n : Int) (s : Select) :
    (select s).limit (.int n) = .ok (select { s with limit := some n }) := rfl

@[simp] theorem offset_int (n : Int) (s : Select) :
    (select s).offset (.int n) = .ok (select { s with offset := some n }) := rfl

end Statement
end Folio

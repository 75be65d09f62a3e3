/-
# Column maps

A pager may send every column name through a map before it is written into an
ORDER BY list, to qualify it or to look it up. A map may fail on a column, and
what it gives need not be a text. Nor need what it gets: a column may have been
assigned a value of another kind, which most maps do not fit. `Renaming` lists
the maps that are offered by name; one that lacks something it works with fails
on every column.

Key definitions: `ColumnFault`, `ColumnMap`, `Renaming`, `Renaming.toMap`.
-/
import Folio.Number
import Folio.SortKey
import Folio.Text.LetterCase
import Folio.Value.Lookup

namespace Folio

/-- Why a column map fails. -/
inductive ColumnFault where
  /-- Something was looked up that is not there. -/
  | lookup (fault : LookupFault)
  | refused (column : String)
  | unfit
  /-- A whole number is too large for a sum in 64 bits. -/
  | tooLarge
  deriving DecidableEq, Repr

/-- What is said about a failure. -/
def ColumnFault.message? : ColumnFault → Option String
  | lookup fault => fault.message?
  | refused column => some ("bad column: " ++ column)
  | unfit => none
  | tooLarge => some "int too large to convert to float"

/-- A map from columns to what stands for them. -/
abbrev ColumnMap : Type := Value → Except ColumnFault Value

/-- The term with its column sent through a map. -/
def OrderTerm.mapped (f : ColumnMap) (t : OrderTerm) : Except ColumnFault OrderTerm :=
  (f t.column).map fun column => { t with column := column }

/-- The column maps that have a name. -/
inductive Renaming where
  | lowered
  | uppered
  | unchanged
  | preceded (value : Value)
  | followed (value : Value)
  | constant (value : Value)
  | listed (table : Value)
  | refusing
  /-- A map without something that it needs. -/
  | lacking (name : String)

namespace Renaming

/-- A map on texts, which fits nothing else. -/
def onText (f : String → Except ColumnFault Value) : ColumnMap
  | .text c => f c
  | _ => .error .unfit

/-- Two numbers added up. -/
def added (a b : Number) : Except ColumnFault Value :=
  match a.sum? b with
  | some sum => .ok sum.value
  | none => .error .tooLarge

/-- Two texts, or two lists, one behind the other, or two numbers added up.
Nothing else can be joined. -/
def joined (v w : Value) : Except ColumnFault Value :=
  match v, w with
  | .text s, .text t => .ok (.text (s ++ t))
  | .list items, .list more => .ok (.list (items ++ more))
  | _, _ =>
    match v.number?, w.number? with
    | some a, some b => added a b
    | _, _ => .error .unfit

/-- The part of a table that a column stands for. -/
def lookUp (table : Value) : ColumnMap := fun column =>
  (table.part column).mapError .lookup

/-- The map of that name. -/
def toMap : Renaming → ColumnMap
  | lowered => onText fun c => .ok (.text (Text.lowered c))
  | uppered => onText fun c => .ok (.text (Text.uppered c))
  | unchanged => .ok
  | preceded v => fun column => joined v column
  | followed v => fun column => joined column v
  | constant v => fun _ => .ok v
  | listed table => lookUp table
  | refusing => onText fun c => .error (.refused c)
  | lacking name => fun _ => .error (.lookup (.missing name))

end Renaming
end Folio

/-
# Pagers and their options

A pager turns pages into windows on a statement. It is made from four options:
the size of a page that gives none, the largest size, the specs that order a
page without an order of its own, and a column map. Each may be left out. Sizes
are coerced to whole numbers; zero stands for the usual size of that option. A
negative size and a column map that is no map are misconfigurations: they end
the check at once. Everything else that is wrong is reported together.

Key definitions: `PageSize`, `Pager`, `Argument`, `Options`, `Pager.ofOptions`.
Key theorems: `Pager.ofOptions_nil`.
-/
import Folio.Checked
import Folio.Failure
import Folio.Value.Reading

namespace Folio

/-- A size of at least one row. -/
structure PageSize where
  rows : Int
  one_le_rows : 1 ≤ rows
  deriving DecidableEq, Repr

/-- What every pager works with. -/
structure Pager where
  defaultSize : PageSize
  maxSize : PageSize
  defaultSpecs : List String
  columnMap : Option ColumnMap

/-- What an option may be given: a value, or a column map. -/
inductive Argument where
  | value (v : Value)
  | map (f : ColumnMap)

/-- The options given, each perhaps left out. -/
structure Options where
  defaultSize : Option Argument := none
  maxSize : Option Argument := none
  defaultSpecs : Option Argument := none
  columnMap : Option Argument := none

/-- The options of a pager that have a name outside. -/
inductive OptionName where
  | defaultSize
  | maxSize
  | defaultSpecs
  | columnMap
  deriving DecidableEq, Repr

/-- The name of an option. -/
def OptionName.text : OptionName → String
  | defaultSize => "default_size"
  | maxSize => "max_size"
  | defaultSpecs => "default_sort"
  | columnMap => "column_func"

/-- The options among named arguments; other names are ignored. -/
def Options.ofFields (fields : List (String × Argument)) : Options where
  defaultSize := fields.lookup OptionName.defaultSize.text
  maxSize := fields.lookup OptionName.maxSize.text
  defaultSpecs := fields.lookup OptionName.defaultSpecs.text
  columnMap := fields.lookup OptionName.columnMap.text

namespace Argument

/-- A whole number. -/
def readInt : Argument → Checked Int
  | value v => v.readInt
  | map _ => Checked.refuse .notInteger

/-- A list of specs. -/
def readSpecs : Argument → Checked (List String)
  | value (.list items) => Checked.each Value.readText items
  | _ => Checked.refuse .notTuple

/-- The members an argument is spread into. -/
def spread : Argument → Option (List Value)
  | value v => v.spread
  | map _ => none

/-- Is the argument null? -/
def isNull : Argument → Bool
  | value v => v.isNull
  | map _ => false

end Argument

namespace Pager

/-- The name of the model in complaints. -/
def model : String := "PaginatorConfig"

/-- The size of a page when neither it nor the pager gives one. -/
def usualSize : PageSize := ⟨10, by decide⟩

/-- The largest size when the pager gives none. -/
def usualMaxSize : PageSize := ⟨50, by decide⟩

/-- A size that is not negative, the usual one in place of zero. -/
def sizeOr (usual : PageSize) (n : Int) (h : 0 ≤ n) : PageSize :=
  if h0 : n = 0 then usual else ⟨n, by omega⟩

/-- A size option. A number below zero is a misconfiguration. -/
def readSize (name : OptionName) (usual : PageSize) (given : Option Argument) :
    Except Failure (Checked PageSize) :=
  match given with
  | none => .ok (.ok usual)
  | some arg =>
    match arg.readInt.under (.field name.text) with
    | .ok n =>
      if h : 0 ≤ n then .ok (.ok (sizeOr usual n h))
      else .error (.misconfigured name.text (.int n))
    | .error issues => .ok (.error issues)

/-- The default specs. -/
def readSpecs (given : Option Argument) : Checked (List String) :=
  match given with
  | none => .ok []
  | some arg => arg.readSpecs.under (.field OptionName.defaultSpecs.text)

/-- The column map. A value other than null is a misconfiguration. -/
def readMap (given : Option Argument) : Except Failure (Option ColumnMap) :=
  match given with
  | none => .ok none
  | some (.map f) => .ok (some f)
  | some (.value .null) => .ok none
  | some (.value v) => .error (.misconfigured OptionName.columnMap.text v)

/-- The pager with the given options. -/
def ofOptions (options : Options) : Except Failure Pager :=
  match readSize .defaultSize usualSize options.defaultSize with
  | .error failure => .error failure
  | .ok defaultSize =>
    match readSize .maxSize usualMaxSize options.maxSize with
    | .error failure => .error failure
    | .ok maxSize =>
      match readMap options.columnMap with
      | .error failure => .error failure
      | .ok columnMap =>
        match defaultSize.zip (maxSize.zip (readSpecs options.defaultSpecs)) with
        | .ok r => .ok ⟨r.1, r.2.1, r.2.2, columnMap⟩
        | .error issues => .error (.rejected ⟨model, issues⟩)

/-- The pager as a record; of the column map it tells whether there is one. -/
def dump (p : Pager) : Value :=
  .record [(OptionName.defaultSize.text, .int p.defaultSize.rows),
    (OptionName.maxSize.text, .int p.maxSize.rows),
    (OptionName.defaultSpecs.text, .list (p.defaultSpecs.map .text)),
    (OptionName.columnMap.text, .bool p.columnMap.isSome)]

/-- The pager without options. -/
def usual : Pager :=
  ⟨usualSize, usualMaxSize, [], none⟩

theorem ofOptions_nil : ofOptions {} = .ok usual := rfl

end Pager
end Folio

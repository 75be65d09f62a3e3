/-
# What a pager does with a page

Before a statement is sent, the pager fits the page: a page without size gets
the default size, and no page keeps more than the largest. The statement is
then limited to one row more than the page shows, so that a row too many tells
that more follow; it skips the rows before the page, and is ordered by the
clauses of the chosen keys, each column sent through the column map once. If
the map fails no statement results, but the page stays fitted.

When the rows of a narrowed statement are there, those beyond the limit of the
page are dropped, and the page tells that more follow if there were any. The
page is then brought to the window that was used: its size becomes the limit
and its number the one whose window starts at the offset. The rows may be of
any type. A negative limit, which only an assigned size can give, drops as
many rows from the end.

Key definitions: `Pager.fit`, `Pager.clauses`, `Pager.windowed`,
`Pager.prepare`, `Pager.narrow`, `Pager.leading`, `Pager.rowCount`,
`Pager.Collected`, `Pager.collect`.
Key theorems: `Pager.written_term`, `Pager.windowed_int`.
-/
import Folio.KeyChoice
import Folio.Pager
import Folio.Statement
import Folio.Window

namespace Folio
namespace Pager

/-! ### Fitting -/

/-- The size the pager allows a page of some size. -/
def fitSize (p : Pager) (size : Int) : Int :=
  min (if size = 0 then p.defaultSize.rows else size) p.maxSize.rows

/-- The page with the size the pager allows it. -/
def fit (p : Pager) (page : Page) : Page :=
  { page with size := p.fitSize page.size }

/-! ### Order clauses -/

/-- The keys the pager sorts a page by. -/
def choice (p : Pager) (page : Option Page) : KeyChoice SortKey :=
  KeyChoice.ofPage page (p.defaultSpecs.map some)

/-- The order clause of a term, unless a number in it has too many digits. -/
def written (term : OrderTerm) : Except Failure String :=
  if term.column.isWritable then .ok term.clause else .error .tooManyDigits

/-- The order clause of a term, its column sent through the map. -/
def clause (p : Pager) (term : OrderTerm) : Except Failure String :=
  match p.columnMap with
  | none => written term
  | some f =>
    match term.mapped f with
    | .ok term => written term
    | .error fault => .error (.column fault)

/-- The order clauses of several terms, or the failure of the first that has
one. -/
def clausesOf (p : Pager) : List OrderTerm → Except Failure (List String)
  | [] => .ok []
  | term :: rest =>
    match p.clause term with
    | .error failure => .error failure
    | .ok text =>
      match p.clausesOf rest with
      | .error failure => .error failure
      | .ok texts => .ok (text :: texts)

/-- The order clauses of a page. -/
def clauses (p : Pager) (page : Option Page) : Except Failure (List String) :=
  p.clausesOf ((p.choice page).keys.map SortKey.term)

theorem written_term (key : SortKey) : written key.term = .ok key.clause := rfl

/-! ### Narrowing -/

/-- A statement ready to be sent, and the rows that are there before it is:
none. -/
structure Prepared where
  statement : Statement
  rows : List Value := []

/-- The statement, ordered by some clauses if there are any. -/
def ordered (clauses : List String) (statement : Statement) : Statement :=
  if clauses = [] then statement else statement.orderBy clauses

/-- The statement for a window, ordered by some clauses. -/
def windowed (statement : Statement) (limit offset : Number) (clauses : List String) :
    Except Failure Statement :=
  match statement.limit (limit.plus 1) with
  | .error failure => .error failure
  | .ok limited => (limited.offset offset).map (ordered clauses)

theorem windowed_int (s : Select) (limit offset : Int) (clauses : List String) :
    windowed (.select s) (.int limit) (.int offset) clauses =
      .ok (ordered clauses (.select { s with limit := some (limit + 1), offset := some offset })) :=
  rfl

/-- The statement for a window, ordered by some clauses, and the events
reported: those that came with the clauses, and that it is prepared. -/
def prepare (statement : Statement) (limit offset : Number) (events : List Event)
    (clauses : Except Failure (List String)) : List Event × Except Failure Prepared :=
  match clauses with
  | .error failure => (events, .error failure)
  | .ok clauses =>
    match windowed statement limit offset clauses with
    | .error failure => (events, .error failure)
    | .ok narrowed =>
      (events ++ [.queryPrepared limit offset clauses], .ok { statement := narrowed })

/-- What narrowing leaves: the page, the events reported, and the prepared
statement unless something failed. -/
structure Narrowed where
  page : Option Page
  events : List Event
  prepared : Except Failure Prepared

/-- Narrows a statement to the window of a page. -/
def narrow (p : Pager) (statement : Statement) (page : Option Page) : Narrowed :=
  let fitted := page.map p.fit
  let r := prepare statement (.int (Window.limit fitted)) (.int (Window.offset fitted))
    (p.choice fitted).events (p.clauses fitted)
  ⟨fitted, r.1, r.2⟩

/-! ### Collecting -/

variable {α : Type}

/-- The first `n` of some rows; for a negative `n` all but the last `-n`. -/
def leading (n : Int) (rows : List α) : List α :=
  if 0 ≤ n then rows.take n.toNat else rows.take (rows.length - (-n).toNat)

/-- How many rows can be held at once. -/
def mostRows : Int := 0x40000000

/-- How many rows a value asks for. -/
def rowCount (v : Value) : Except Failure Nat :=
  match v.number?.bind Number.whole? with
  | none => .error .badCall
  | some n =>
    if n ≤ mostRows then .ok n.toNat
    else .error (if n < 0x8000000000000000 then .noRoom else .tooManyRows)

/-- What collecting leaves: the page, the events reported, and the rows
kept. -/
structure Collected (α : Type) where
  page : Page
  events : List Event
  rows : Except Failure (List α)

/-- The rows that a page shows of those fetched for it. A page that is absent
counts as an empty one. -/
def collect (page : Option Page) (rows : List α) : Collected α :=
  let p := page.getD {}
  let limit := Window.limit (some p)
  let offset := Window.offset (some p)
  let more := decide (limit < rows.length)
  let kept := if more then leading limit rows else rows
  let sized := { p with more := more, size := limit }
  match Window.number? offset limit with
  | none => ⟨sized, [], .error (.emptyWindow false)⟩
  | some number =>
    ⟨{ sized with number := number }, [.resultPrepared kept.length (.int number) more], .ok kept⟩

end Pager
end Folio

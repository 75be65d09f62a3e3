/-
# A listing served over HTTP

A request asks for a page by three parameters: `page`, a number from one on,
`size`, a number from zero on, and `sort`, comma separated specs. Parameters
that are wrong are refused together. Otherwise the pager narrows a statement
for the page, the rows of its window are fetched, one row more than shown, and
the answer lists what the pager keeps of them. Rows that are no texts are refused
then, and fetching from something that has no rows fails.

Key definitions: `Endpoint.Detail`, `Endpoint.Reply`, `Endpoint.serve`,
`Endpoint.answer`.
-/
import Folio.Listing
import Folio.Pager.Work
import Folio.Query

namespace Folio
namespace Endpoint

/-- What is wrong with a parameter. -/
structure Detail where
  complaint : Complaint
  name : String
  input : String
  deriving DecidableEq, Repr

/-- The answer to a request. -/
inductive Reply where
  | listing (l : Listing) (statement : Statement)
  | refused (details : List Detail)

/-- What is wrong with a parameter, if anything is, and its number. -/
def readNumber (name : String) (bound default : Int) (given : Option String) :
    Except (List Detail) Int :=
  match given with
  | none => .ok default
  | some input =>
    match Value.readAtLeast bound (.text input) with
    | .ok n => .ok n
    | .error issues => .error (issues.map fun issue => ⟨issue.complaint, name, input⟩)

/-- The number and the size asked for, or what is wrong with either. -/
def readNumbers (parameters : List (String × String)) : Except (List Detail) (Int × Int) :=
  match readNumber "page" 1 1 (Query.last? parameters "page"),
    readNumber "size" 0 0 (Query.last? parameters "size") with
  | .ok number, .ok size => .ok (number, size)
  | .ok _, .error details => .error details
  | .error details, .ok _ => .error details
  | .error details, .error more => .error (details ++ more)

/-- The sort specs asked for. -/
def readSort (parameters : List (String × String)) : String :=
  (Query.last? parameters "sort").getD ""

/-- The rows that a database gives for the window of a page, one more than is
shown. -/
def fetch {α : Type} (page : Option Page) (rows : List α) : List α :=
  (rows.drop (Window.offset page).toNat).take (Window.limit page + 1).toNat

/-- The answer for a page: its rows among those of the whole listing, if there
are any. -/
def serve (pager : Pager) (rows : Option (List Value)) (page : Page) : Except Failure Reply :=
  let n := pager.narrow (.select {}) (some page)
  match n.prepared, rows with
  | .error failure, _ => .error failure
  | .ok _, none => .error .badCall
  | .ok prepared, some rows =>
    let c := Pager.collect n.page (fetch n.page rows)
    match c.rows with
    | .error failure => .error failure
    | .ok kept =>
      match Listing.ofItems .text (.list kept) (some c.page) with
      | .error rejection => .error (.rejected rejection)
      | .ok l => .ok (.listing l prepared.statement)

/-- The answer to a query string. -/
def answer (pager : Pager) (rows : Option (List Value)) (query : String) :
    Except Failure Reply :=
  let parameters := Query.parameters query
  match readNumbers parameters with
  | .error details => .ok (.refused details)
  | .ok (number, size) =>
    match Checked.titled Page.model
        (Page.ofParams (.int number) (.int size) (.text (readSort parameters))) with
    | .error rejection => .error (.rejected rejection)
    | .ok page => serve pager rows page

end Endpoint
end Folio

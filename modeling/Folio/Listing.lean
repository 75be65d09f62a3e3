/-
# Listings

A listing is what a request gets back: the items, all of one kind, and the
page they belong to. Items are checked against their kind; the page is taken
over as it is when a listing is put together, and checked when a whole listing
is read. The record of a listing is the listing as it is, whatever its items are.
Written out in JSON, unchecked items may not be nested too deeply, and numbers
that are not finite are left out.

Key definitions: `ItemKind`, `Item`, `Listing`, `Listing.ofItems`,
`Listing.read`, `Listing.dump`, `Listing.written`.
-/
import Folio.Failure
import Folio.Page
import Folio.Value

namespace Folio

/-- What the items of a listing may be. -/
inductive ItemKind where
  | anything
  | int
  | text
  | bool
  | key
  | page
  | intList
  deriving DecidableEq, Repr

/-- One item of a listing. -/
inductive Item where
  | anything (v : Value)
  | int (n : Int)
  | text (s : String)
  | bool (b : Bool)
  | key (k : SortKey)
  | page (p : Page)
  | intList (ns : List Int)
  deriving Repr

namespace Item

/-- The item as a value. -/
def dump : Item → Value
  | anything v => v
  | int n => .int n
  | text s => .text s
  | bool b => .bool b
  | key k => k.dump
  | page p => p.dump
  | intList ns => .list (ns.map .int)

/-- May the item be written out in JSON? -/
def isShallow : Item → Bool
  | anything v => v.isShallow
  | _ => true

end Item

namespace ItemKind

/-- The name of a listing of such items in complaints. -/
def model : ItemKind → String
  | anything => "PagedResponse"
  | int => "PagedResponse[int]"
  | text => "PagedResponse[str]"
  | bool => "PagedResponse[bool]"
  | key => "PagedResponse[Sort]"
  | page => "PagedResponse[Page]"
  | intList => "PagedResponse[list[int]]"

/-- An item of the kind. -/
def read : ItemKind → Value → Checked Item
  | anything, v => .ok (.anything v)
  | int, v => v.readInt.map .int
  | text, v => v.readText.map .text
  | bool, v => v.readBool.map .bool
  | key, v => (SortKey.read v).map .key
  | page, v => (Page.read v).map .page
  | intList, v => (v.readList Value.readInt).map .intList

/-- A list of items of the kind. -/
def readItems (kind : ItemKind) (v : Value) : Checked (List Item) :=
  (v.readList kind.read).under (.field "items")

end ItemKind

/-- A batch of items and its page. -/
structure Listing where
  items : List Item
  page : Page

namespace Listing

/-- A page that is there, of whatever type. -/
def present {π : Type} (page : Option π) : Checked π :=
  match page with
  | some p => .ok p
  | none => (Checked.refuse (.notModel Page.model)).under (.field "page")

/-- Some items of the kind for a page that is there. -/
def gather {π : Type} (kind : ItemKind) (items : Value) (page : Option π) :
    Except Rejection (List Item × π) :=
  Checked.titled kind.model ((kind.readItems items).zip (present page))

/-- A listing of some items for a page that is there. -/
def ofItems (kind : ItemKind) (items : Value) (page : Option Page) : Except Rejection Listing :=
  (gather kind items page).map fun r => ⟨r.1, r.2⟩

/-- A field of a listing, which must be there. -/
def readRequired {α : Type} (fields : List (String × Value)) (name : String)
    (check : Value → Checked α) : Checked α :=
  match fields.lookup name with
  | none => (Checked.refuse .missing).under (.field name)
  | some v => (check v).under (.field name)

/-- A listing from a value of any kind. -/
def read (kind : ItemKind) (v : Value) : Except Rejection Listing :=
  Checked.titled kind.model
    (match v.readRecord kind.model with
    | .ok fields =>
      ((readRequired fields "items" (Value.readList kind.read)).zip
        (readRequired fields "page" Page.read)).map fun r => Listing.mk r.1 r.2
    | .error issues => .error issues)

/-- Items and a page as a record. -/
def recordOf (items : List Item) (page : Value) : Value :=
  .record [("items", .list (items.map Item.dump)), ("page", page)]

/-- Items and a page written out in JSON, which not every record can be. -/
def written (items : List Item) (page : Value) : Except Failure Value :=
  if items.all Item.isShallow then .ok (recordOf items page).finite else .error .tooDeep

/-- The listing as a record. -/
def dump (l : Listing) : Value :=
  recordOf l.items l.page.dump

end Listing
end Folio

/-
# Pages

A page says which rows of a listing are wanted: how many (`size`), which
batch (`number`), and in what order, either by explicit sort keys or by comma
separated specs in `column`. Zero stands for "not given" in both numbers.
After the rows are fetched the page tells what was done, and whether more rows
follow. A page that was checked has no negative numbers; one whose fields were
assigned later may have any.

In a record the number is called `page` and the keys `sort`; when they are
read, `order` will do for `sort`.

Key definitions: `Page`, `Page.Sound`, `Page.read`, `Page.eager`,
`Page.ofParams`, `Page.dump`.
-/
import Folio.SortKey

namespace Folio

/-- A page of a listing. -/
structure Page where
  size : Int := 0
  number : Int := 0
  more : Bool := false
  column : String := ""
  keys : List SortKey := []
  deriving DecidableEq, Repr

namespace Page

/-- What a check guarantees of a page. -/
def Sound (p : Page) : Prop :=
  0 ≤ p.size ∧ 0 ≤ p.number

instance (p : Page) : Decidable p.Sound := by
  unfold Sound; infer_instance

/-- The name of the model in complaints. -/
def model : String := "Page"

/-! ### Reading -/

/-- The two names of the keys in a record. -/
inductive KeysField where
  | sort
  | order
  deriving DecidableEq, Repr

/-- The name of the field. -/
def KeysField.name : KeysField → String
  | .sort => "sort"
  | .order => "order"

/-- The keys of a record: `sort` wins, and `order` is then not looked at. -/
def readKeys (fields : List (String × Value)) : Checked (List SortKey) :=
  match fields.lookup KeysField.sort.name with
  | some v => (v.readList SortKey.read).under (.field KeysField.sort.name)
  | none => Value.readField fields KeysField.order.name [] (Value.readList SortKey.read)

/-- A page from its numbers, its flag, its column and its keys, each checked
before. -/
def gather (size number : Checked Int) (more : Checked Bool) (column : Checked String)
    (keys : Checked (List SortKey)) : Checked Page :=
  (size.zip (number.zip (more.zip (column.zip keys)))).map fun r =>
    ⟨r.1, r.2.1, r.2.2.1, r.2.2.2.1, r.2.2.2.2⟩

/-- A page from the fields of a record. -/
def readFields (fields : List (String × Value)) : Checked Page :=
  gather (Value.readField fields "size" 0 (Value.readAtLeast 0))
    (Value.readField fields "page" 0 (Value.readAtLeast 0))
    (Value.readField fields "more" false Value.readBool)
    (Value.readField fields "column" "" Value.readText)
    (readKeys fields)

/-- A page from a value of any kind. -/
def read (v : Value) : Checked Page :=
  match v.readRecord model with
  | .ok fields => readFields fields
  | .error issues => .error issues

/-! ### Other ways to make a page -/

/-- The size of a page made with eager defaults when none is asked for. -/
def eagerSize : Int := 10

/-- The number of a page made with eager defaults when none is asked for. -/
def eagerNumber : Int := 1

/-- A number whose default stands in for zero. -/
def orDefault (default : Int) (v : Value) : Value :=
  if v.isZero then .int default else v

/-- A page whose defaults are filled in at once. -/
def eager (size number : Value) (keys : List SortKey) : Checked Page :=
  gather ((Value.readAtLeast 0 (orDefault eagerSize size)).under (.field "size"))
    ((Value.readAtLeast 0 (orDefault eagerNumber number)).under (.field "page"))
    (.ok false) (.ok "") (.ok keys)

/-- A page from the parameters of a request. -/
def ofParams (number size sort : Value) : Checked Page :=
  readFields [("page", number), ("size", size), ("column", sort)]

/-! ### Writing -/

/-- The fields of a page as a record, the keys under the given name. -/
def recordOf (field : KeysField) (size number more column keys : Value) : Value :=
  .record [("size", size), ("page", number), ("more", more), ("column", column),
    (field.name, keys)]

/-- The page as a record, the keys under the given name. -/
def dumpWith (field : KeysField) (p : Page) : Value :=
  recordOf field (.int p.size) (.int p.number) (.bool p.more) (.text p.column)
    (.list (p.keys.map SortKey.dump))

/-- The page as a record. -/
def dump : Page → Value :=
  dumpWith .sort

end Page
end Folio

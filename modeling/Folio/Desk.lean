/-
# Pages and sort keys with an identity

Pages are handed around and changed in place, and several pages may hold the
very same sort key, so that a change to it shows in all of them. A desk keeps
the keys, as slips, and the pages, as cards, under references; a card holds
references to its slips. A field of either may have been assigned a value of any
kind, also the one that holds the keys, and when all fields were replaced at
once some may be missing: asking for one of those fails, unless something is
found in its place.

Key definitions: `Desk`, `Slip`, `Keys`, `Card`, `Card.window`, `Desk.modify`.
Key theorems: `Card.window_ofPage`, `Desk.slips_modify`, `Desk.card?_modify`.
-/
import Folio.Hidden
import Folio.Window

namespace Folio

/-- Refers to a sort key on a desk. -/
abbrev KeyRef : Type := Nat

/-- Refers to a page on a desk. -/
abbrev PageRef : Type := Nat

/-! ### Sort keys -/

/-- What a sort key holds in the place of its direction. -/
inductive Heading where
  | proper (d : Option Direction)
  | other (v : Value)
  deriving Repr

/-- A sort key on a desk. -/
structure Slip where
  column : Option Value
  heading : Option Heading
  hidden : Hidden := []
  deriving Repr

/-- The direction, if it is one. What says nothing stands for none. -/
def Heading.direction? : Heading → Except Failure (Option Direction)
  | proper d => .ok d
  | other v => if v.isSet then .error .wrongKind else .ok none

namespace Slip

/-- The slip of a term. -/
def ofTerm (t : OrderTerm) : Slip :=
  ⟨some t.column, some (.proper t.direction), []⟩

/-- The slip of a key. -/
def ofKey (key : SortKey) : Slip :=
  ofTerm key.term

/-- The column, or what is found in its place. -/
def columnValue (s : Slip) : Except Failure Value :=
  s.hidden.field "column" s.column

/-- What is held, or found, in the place of the direction. -/
def headingThere (s : Slip) : Except Failure Heading :=
  match s.heading with
  | some heading => .ok heading
  | none => (s.hidden.instead "order").map .other

/-- The term that a slip is, if it has a column and a direction. -/
def term (s : Slip) : Except Failure OrderTerm :=
  match s.columnValue with
  | .error failure => .error failure
  | .ok column => (s.headingThere.bind Heading.direction?).map fun d => ⟨column, d⟩

@[simp] theorem columnValue_ofTerm (t : OrderTerm) : (ofTerm t).columnValue = .ok t.column := rfl

@[simp] theorem headingThere_ofTerm (t : OrderTerm) :
    (ofTerm t).headingThere = .ok (.proper t.direction) := rfl

@[simp] theorem term_ofTerm (t : OrderTerm) : (ofTerm t).term = .ok t := rfl

end Slip

/-! ### Pages -/

/-- A member of what a page holds in the place of its keys. -/
inductive Member where
  | key (ref : KeyRef)
  | value (v : Value)
  deriving Repr

/-- What a page holds in the place of its sort keys: a list, or anything else. -/
inductive Keys where
  | listed (members : List Member)
  | bare (v : Value)
  deriving Repr

namespace Keys

/-- The keys under some references. -/
def ofRefs (refs : List KeyRef) : Keys :=
  .listed (refs.map .key)

/-- A value in the place of the keys. -/
def ofValue : Value → Keys
  | .list items => .listed (items.map .value)
  | v => .bare v

/-- Is there anything in the place of the keys? -/
def isSet : Keys → Bool
  | listed members => !members.isEmpty
  | bare v => v.isSet

/-- The members, if what is in the place of the keys has any. -/
def members : Keys → Except Failure (List Member)
  | listed members => .ok members
  | bare v => v.spread.elim (.error .badCall) fun parts => .ok (parts.map .value)

end Keys

/-- A page on a desk. Its fields have an order, which shows when it is written
out. -/
structure Card where
  size : Option Value := some (.int 0)
  number : Option Value := some (.int 0)
  more : Option Value := some (.bool false)
  column : Option Value := some (.text "")
  keys : Option Keys := some (.listed [])
  hidden : Hidden := []
  sequence : List String := ["size", "page", "more", "column", "order"]
  deriving Repr

/-- Sort keys and pages under references. -/
structure Desk where
  slips : Array Slip := #[]
  cards : Array Card := #[]
  deriving Repr

namespace Card

/-- The names of the fields. -/
def names : List String :=
  ["size", "page", "more", "column", "order"]

/-- The card of a page, with references to its keys. -/
def ofPage (page : Page) (keys : List KeyRef) : Card where
  size := some (.int page.size)
  number := some (.int page.number)
  more := some (.bool page.more)
  column := some (.text page.column)
  keys := some (.ofRefs keys)

/-- The size, or what is found in its place. -/
def sizeValue (card : Card) : Except Failure Value :=
  card.hidden.field "size" card.size

/-- The number, or what is found in its place. -/
def numberValue (card : Card) : Except Failure Value :=
  card.hidden.field "page" card.number

/-- The column, or what is found in its place. -/
def columnValue (card : Card) : Except Failure Value :=
  card.hidden.field "column" card.column

/-- What is held, or found, in the place of the keys. -/
def keysThere (card : Card) : Except Failure Keys :=
  match card.keys with
  | some keys => .ok keys
  | none => (card.hidden.instead "order").map .ofValue

/-- A value as the number that it has to be. -/
def numberOf (v : Value) : Except Failure Number :=
  v.number?.elim (.error .badCall) .ok

/-- The limit and the offset of a card. -/
def window (card : Card) : Except Failure (Number × Number) :=
  match card.sizeValue.bind numberOf, card.numberValue.bind numberOf with
  | .error failure, _ => .error failure
  | .ok _, .error failure => .error failure
  | .ok size, .ok number =>
    match Window.looseOffset? number size with
    | some offset => .ok (Window.looseLimit size, offset)
    | none => .error .tooLarge

theorem window_ofPage (page : Page) (keys : List KeyRef) :
    (ofPage page keys).window =
      .ok (.int (Window.limit (some page)), .int (Window.offset (some page))) := by
  simp [window, sizeValue, numberValue, numberOf, ofPage, Except.bind, Value.number?,
    Window.looseLimit_int, Window.looseOffset?_int]

/-- The card after a change of the field of a name. A field that was missing
comes last. -/
def put (card : Card) (field : String) (f : Card → Card) : Attempt Card :=
  card.hidden.change field (fun card =>
    let next := f card
    if next.sequence.contains field then next
    else { next with sequence := next.sequence ++ [field] }) card

/-- The card with the fields of a record in place of all others. -/
def replaced (card : Card) (fields : List (String × Value)) : Card where
  size := fields.lookup "size"
  number := fields.lookup "page"
  more := fields.lookup "more"
  column := fields.lookup "column"
  keys := (fields.lookup "order").map .ofValue
  hidden := card.hidden.replaced names fields
  sequence := (fields.map Prod.fst).filter names.contains

end Card

namespace Desk

/-! ### Looking -/

/-- The card under a reference; an absent page has none. -/
def card? (d : Desk) (ref : Option PageRef) : Option Card :=
  ref.bind fun r => d.cards[r]?

/-- The slip under a reference. -/
def slip (d : Desk) (ref : KeyRef) : Except Failure Slip :=
  needed d.slips[ref]?

/-! ### New keys and cards -/

/-- New keys, and the references to them. -/
def addKeys (d : Desk) (keys : List SortKey) : Desk × List KeyRef :=
  ({ d with slips := d.slips ++ (keys.map Slip.ofKey).toArray },
    (List.range keys.length).map (d.slips.size + ·))

/-- A new card, and the reference to it. -/
def addCard (d : Desk) (card : Card) : Desk × PageRef :=
  ({ d with cards := d.cards.push card }, d.cards.size)

/-- A new page with new keys. -/
def addPage (d : Desk) (page : Page) : Desk × PageRef :=
  let r := d.addKeys page.keys
  r.1.addCard (Card.ofPage page r.2)

/-! ### Changes -/

/-- The desk with a card changed. -/
def modify (d : Desk) (ref : Option PageRef) (f : Card → Card) : Desk :=
  match ref with
  | some r => { d with cards := d.cards.modify r f }
  | none => d

@[simp] theorem slips_modify (d : Desk) (ref : Option PageRef) (f : Card → Card) :
    (d.modify ref f).slips = d.slips := by
  cases ref <;> rfl

theorem card?_modify (d : Desk) (r s : PageRef) (f : Card → Card) :
    (d.modify (some r) f).card? (some s) =
      if r = s then (d.card? (some s)).map f else d.card? (some s) := by
  simp [card?, modify, Array.getElem?_modify]

/-- The desk with a slip changed. -/
def modifySlip (d : Desk) (ref : KeyRef) (f : Slip → Slip) : Desk :=
  { d with slips := d.slips.modify ref f }

/-- What a page holds in the place of its keys. -/
def keysOf (d : Desk) (ref : Option PageRef) : Except Failure Keys :=
  (needed (d.card? ref)).bind Card.keysThere

/-- What a page holds in the place of a key at an index. -/
def keyAt (d : Desk) (ref : Option PageRef) (index : Value) : Except Failure Member :=
  (d.keysOf ref).bind fun keys =>
    match keys with
    | .listed members => (memberAt false members index).mapError .lookup
    | .bare v => ((v.part index).map .value).mapError .lookup

end Desk
end Folio

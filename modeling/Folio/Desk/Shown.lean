/-
# Pages and listings as they are shown

A page is shown as it is, each field with the value assigned to it; that takes
all fields, and keys with a direction in the place of its keys, or nulls. A page
may also be written out, which never asks for so much: a field that is missing
is left out, and what is no key is written as it is. Written out its size and
its number are numbers, so true stands there as one; a number that is not finite
is left out, and no value may be nested too deeply. The same holds of the items
of a listing.

Key definitions: `Desk.dump`, `Desk.written`, `Desk.listing`.
Key theorems: `Desk.keyValues_refs`.
-/
import Folio.Desk
import Folio.Listing

namespace Folio
namespace Desk

/-! ### Showing -/

/-- What stands in the place of a key as a record, null as it is. -/
def keyValue (d : Desk) : Member → Except Failure Value
  | .key ref => (d.slip ref).bind fun s => s.term.map OrderTerm.dump
  | .value .null => .ok .null
  | .value _ => .error .wrongKind

/-- Several such records. -/
def keyValues (d : Desk) : List Member → Except Failure (List Value)
  | [] => .ok []
  | member :: rest =>
    match d.keyValue member with
    | .error failure => .error failure
    | .ok v => (d.keyValues rest).map (v :: ·)

/-- What stands in the place of the keys as a list of records. -/
def keysValue (d : Desk) (keys : Keys) : Except Failure Value :=
  (keys.members.bind d.keyValues).map .list

/-- A card as a record. -/
def cardValue (d : Desk) (card : Card) : Except Failure Value :=
  card.sizeValue.bind fun size =>
  card.numberValue.bind fun number =>
  (card.hidden.field "more" card.more).bind fun more =>
  card.columnValue.bind fun column =>
  (card.keysThere.bind d.keysValue).map (Page.recordOf .sort size number more column)

/-- A page as a record, null when it is absent. -/
def dump (d : Desk) (ref : Option PageRef) : Except Failure Value :=
  match d.card? ref with
  | some card => d.cardValue card
  | none => .ok .null

/-- Slips of keys that are there are shown as those keys. -/
theorem keyValues_refs (d : Desk) : ∀ refs : List (KeyRef × SortKey),
    (∀ r ∈ refs, d.slips[r.1]? = some (.ofKey r.2)) →
      d.keyValues (refs.map fun r => .key r.1) = .ok (refs.map fun r => r.2.dump)
  | [], _ => rfl
  | (ref, key) :: rest, h => by
    have here := h (ref, key) (by simp)
    have others := keyValues_refs d rest fun r hr => h r (by simp [hr])
    simp only at here
    simp [keyValues, keyValue, slip, here, needed, others, Except.bind, Except.map, Slip.ofKey,
      SortKey.dump]

/-! ### Writing out -/

/-- A value with a boolean as the number it counts as. -/
def plainNumber : Value → Value
  | .bool b => .int (if b then 1 else 0)
  | v => v

/-- What stands in the place of a direction, written out. -/
def headingValue : Heading → Value
  | .proper d => ((d.map Direction.keyword).map Value.text).getD .null
  | .other v => v

/-- The fields of a slip, written out. -/
def slipFields (s : Slip) : List (String × Value) :=
  (s.column.map ("column", ·)).toList ++ (s.heading.map fun h => ("order", headingValue h)).toList

/-- What stands in the place of a key, written out. -/
def writtenKey (d : Desk) : Member → Value
  | .key ref => .record ((d.slips[ref]?.map slipFields).getD [])
  | .value v => v

/-- What stands in the place of the keys, written out. -/
def writtenKeys (d : Desk) : Keys → Value
  | .listed members => .list (members.map d.writtenKey)
  | .bare v => v

/-- A field of a card, written out with its name; the keys have the given
one. -/
def writtenField? (d : Desk) (field : Page.KeysField) (card : Card) (name : String) :
    Option (String × Value) :=
  match name with
  | "size" => card.size.map fun v => ("size", plainNumber v)
  | "page" => card.number.map fun v => ("page", plainNumber v)
  | "more" => card.more.map ("more", ·)
  | "column" => card.column.map ("column", ·)
  | "order" => card.keys.map fun keys => (field.name, d.writtenKeys keys)
  | _ => none

/-- The values that a member of what stands in the place of the keys holds. -/
def heldBy (d : Desk) : Member → List Value
  | .key ref => ((d.slips[ref]?.map slipFields).getD []).map Prod.snd
  | .value v => [v]

/-- The values that a card and its keys hold. -/
def held (d : Desk) (card : Card) : List Value :=
  [card.size, card.number, card.more, card.column].filterMap id ++
    match card.keys with
    | none => []
    | some (.listed members) => members.flatMap d.heldBy
    | some (.bare v) => [v]

/-- A card written out, the keys under the given name. -/
def written (d : Desk) (field : Page.KeysField) (card : Card) : Except Failure Value :=
  if (d.held card).all Value.isShallow then
    .ok (Value.record (card.sequence.filterMap (d.writtenField? field card))).finite
  else .error .tooDeep

/-- A card that writes itself out. -/
def spelled (d : Desk) (field : Page.KeysField) (card : Card) : Except Failure Value :=
  match card.hidden.spelled with
  | some failure => .error failure
  | none => d.written field card

/-- Items and a page on the desk written out, null in place of a page that is
absent. -/
def listing (d : Desk) (items : List Item) (ref : Option PageRef) : Except Failure Value :=
  match d.card? ref with
  | none => Listing.written items .null
  | some card => (d.written .sort card).bind (Listing.written items)

end Desk
end Folio
